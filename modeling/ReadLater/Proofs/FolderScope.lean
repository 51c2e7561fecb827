import ReadLater.Proofs.Folders

/-!
# Queries that ask for folders

Written at the end of a query text, `use:folders` does what the option does and nothing else: the
words before it keep their tokens, it joins the last conjunction of the tree, and there it leaves
neither a predicate nor a parameter behind.
-/

namespace ReadLater

namespace Query

/-- If the first text is cut into tokens, the second one has these tokens and then `vs`. -/
def Continues (vs : List Token) (first second : Except QueryError (List PlacedToken)) : Prop :=
  ∀ ts, first = .ok ts → ∃ us, second = .ok (ts ++ us) ∧ us.map (·.token) = vs

lemma Continues.map {vs : List Token} {first second : Except QueryError (List PlacedToken)}
    (h : Continues vs first second) {f : List PlacedToken → List PlacedToken}
    (hf : ∀ ts us, f (ts ++ us) = f ts ++ us) : Continues vs (first.map f) (second.map f) := by
  intro ts hts
  cases first with
  | error e => cases hts
  | ok tail =>
    cases hts
    obtain ⟨us, rfl, hus⟩ := h tail rfl
    exact ⟨us, congrArg Except.ok (hf tail us), hus⟩

lemma continues_tokensFrom {rest : List Char} {vs : List Token} (hrest : CutsInto rest vs)
    (cs : List Char) (offset start : Nat) (word : List Char) (quote : Option Nat) :
    Continues vs (tokensFrom offset start word quote cs)
      (tokensFrom offset start word quote (cs ++ ' ' :: rest)) := by
  induction cs generalizing offset start word quote with
  | nil =>
    intro ts hts
    cases quote with
    | some q => cases hts
    | none =>
      cases hts
      have hblank : EndsWord (' ' :: rest) := by
        left
        decide
      obtain ⟨us, hus, hkinds⟩ := hrest.blank offset start
      refine ⟨us, ?_, hkinds⟩
      rw [List.nil_append, tokensFrom_ends hblank, hus]
      rfl
  | cons c cs ih =>
    rw [List.cons_append]
    by_cases hc : c = '"'
    · simp only [tokensFrom, if_pos hc]
      exact ih _ _ _ _
    · by_cases hquoted : quote.isSome = true
      · simp only [tokensFrom, if_neg hc, if_pos hquoted]
        exact ih _ _ _ _
      · by_cases hblank : Text.isBlank c = true
        · simp only [tokensFrom, if_neg hc, if_neg hquoted, if_pos hblank]
          exact (ih _ _ _ none).map fun ts us => by simp
        · by_cases hbracket : c = '(' ∨ c = ')'
          · simp only [tokensFrom, if_neg hc, if_neg hquoted, if_neg hblank, if_pos hbracket]
            exact (ih _ _ _ none).map fun ts us => by simp
          · simp only [tokensFrom, if_neg hc, if_neg hquoted, if_neg hblank, if_neg hbracket]
            exact ih _ _ _ none

/-- `r` is conjoined to the last conjunction of a tree. -/
inductive ConjoinsLast (r : Query) : Query → Query → Prop
  | conjunction (q : Query) : ConjoinsLast r q (.logical .and q r)
  | alternative (p q : Query) :
      ConjoinsLast r (.logical .or p q) (.logical .or p (.logical .and q r))

lemma Derives.exists_conjoinsLast {ts us : List Token} {q r : Query}
    (hq : Derives .disjunction ts q) (hr : Derives .unary us r) :
    ∃ q', Derives .disjunction (ts ++ us) q' ∧ ConjoinsLast r q q' := by
  cases hq with
  | alternative hq => exact ⟨_, .alternative (.implicitAnd hq hr), .conjunction q⟩
  | @or ts vs p q hp hq =>
    refine ⟨_, ?_, .alternative p q⟩
    rw [List.append_assoc]
    exact .or hp (.implicitAnd hq hr)

lemma cutsInto_useFolders : CutsInto "use:folders".toList [.term "use:folders".toList] :=
  spells_written useFoldersTag_isWritable [] [] trivial cutsInto_nil

lemma derives_useFolders : Derives .unary [.term "use:folders".toList] (.tag useFoldersTag) := by
  rw [← leaf_written useFoldersTag_isWritable]
  exact .operand (.term _)

/-- With `use:folders` behind it a text is read as the same tree with one more tag in its last
conjunction. -/
lemma parse_append_useFolders {text : String} {q : Query} (h : parse text = .ok q) :
    ∃ q', parse (text ++ " use:folders") = .ok q' ∧
      (q = .empty ∧ q' = .tag useFoldersTag ∨ ConjoinsLast (.tag useFoldersTag) q q') := by
  cases hts : tokens text.toList with
  | error e => rw [parse, hts] at h; cases h
  | ok ts =>
    rw [parse_of_tokens hts] at h
    obtain ⟨us, hus, hkinds⟩ :=
      continues_tokensFrom cutsInto_useFolders text.toList 0 0 [] none ts hts
    have htokens : tokens (text ++ " use:folders").toList = .ok (ts ++ us) := by
      rw [String.toList_append]
      exact hus
    have hne : us ≠ [] := by
      rintro rfl
      cases hkinds
    rw [parse_of_tokens htokens]
    simp only [ofTokens_eq_ok_iff (List.append_ne_nil_of_right_ne_nil ts hne), List.map_append,
      hkinds]
    by_cases hempty : ts = []
    · subst hempty
      cases h
      exact ⟨_, .alternative (.factor derives_useFolders), .inl ⟨rfl, rfl⟩⟩
    · have hq := (ofTokens_eq_ok_iff hempty).mp h
      obtain ⟨q', hq', hlast⟩ := hq.exists_conjoinsLast derives_useFolders
      exact ⟨q', hq', .inr hlast⟩

lemma compiles_useFoldersTag (options : CompileOptions) (required : Bool) (acc : Accumulator) :
    Compiles options required (.tag useFoldersTag) acc none acc := by
  have htag : Compiles options required (.tag useFoldersTag) acc none (acc.add required {}) :=
    .tag (useFoldersTag_contribution options _)
  have hadd : acc.add required {} = acc := by simp [Accumulator.add, Accumulator.bind]
  rwa [hadd] at htag

lemma ConjoinsLast.compiles {options : CompileOptions} {q q' r : Query}
    (hr : ∀ required acc, Compiles options required r acc none acc) (hq' : ConjoinsLast r q q')
    {required : Bool} {acc acc' : Accumulator} {p : Option Predicate}
    (h : Compiles options required q acc p acc') : Compiles options required q' acc p acc' := by
  have hand {q : Query} {required : Bool} {acc acc' : Accumulator} {p : Option Predicate}
      (h : Compiles options required q acc p acc') :
      Compiles options required (.logical .and q r) acc p acc' := by
    have hrequired : (required && Connective.and = .and) = required := by simp
    have hjoin : Connective.and.join p none = p := by cases p <;> rfl
    have hlogical := Compiles.logical (hrequired.symm ▸ h)
      (hr (required && Connective.and = .and) acc')
    rwa [hjoin] at hlogical
  cases hq' with
  | conjunction => exact hand h
  | alternative p q =>
    cases h with
    | logical hl hr => exact .logical hl (hand hr)

lemma compile_absorbs {options : CompileOptions} {q q' : Query} {c : Compiled}
    (h : q.compile options = .ok c)
    (hq' : q = .empty ∧ q' = .tag useFoldersTag ∨ ConjoinsLast (.tag useFoldersTag) q q') :
    q'.compile options = .ok c := by
  obtain ⟨acc, hcompiles, hparameters, hranks, hsort, htrash⟩ := compiles_of_compile h
  have hsame : Compiles options true q' {} c.predicate acc := by
    rcases hq' with ⟨rfl, rfl⟩ | hlast
    · generalize c.predicate = p at hcompiles
      cases hcompiles
      exact compiles_useFoldersTag options true {}
    · exact hlast.compiles (compiles_useFoldersTag options) hcompiles
  rw [compile_of_compiles hsame, ← hparameters, ← hranks, ← hsort, ← htrash]

/-- If a text compiles with folders in scope, then the text with `use:folders` behind it compiles to
the same predicate, parameters, ranks, directives and trash flag, whether or not folders are in
scope already. -/
theorem compileText_append_useFolders {options : CompileOptions} {text : String} {c : Compiled}
    (h : compileText { options with foldersScoped := true } text = .ok c) (foldersScoped : Bool) :
    compileText { options with foldersScoped } (text ++ " use:folders") = .ok c := by
  obtain ⟨q, hparse, hcompile⟩ := compile_of_compileText h
  obtain ⟨q', hparse', hlast⟩ := parse_append_useFolders hparse
  have hwants : wantsFolders (text ++ " use:folders") = true := by
    have htext : (text ++ " use:folders").toList =
        (text.toList ++ [' ']) ++ "use:folders".toList := by simp
    rw [wantsFolders, htext]
    exact Text.containsRun_append _ _
  unfold compileText
  rw [hparse', hwants]
  simp only [Bool.true_or, Bool.or_true] at hcompile ⊢
  exact compile_absorbs hcompile hlast

/-- An alternative with a bracketed negation in its last conjunction, which is for a folder. -/
theorem compileText_append_useFolders_alternative :
    let options : CompileOptions := { now := ⟨.epoch, 0⟩ }
    let text := "is:read OR \"two words\" NOT (in:Later in:trash)"
    ∃ c, compileText { options with foldersScoped := true } text = .ok c ∧
      compileText options (text ++ " use:folders") = .ok c ∧
      compileText { options with foldersScoped := true } (text ++ " use:folders") = .ok c ∧
      compileText options text ≠ .ok c ∧
      c.parameters.entries.map (·.name) = ["implicit_0", "in_1"] ∧ c.ranks.length = 1 := by
  intro options text
  have hscoped : ((compileText { options with foldersScoped := true } text).toOption.map fun c =>
      (c.parameters.entries.map (·.name), c.ranks.length)) =
      some (["implicit_0", "in_1"], 1) := by decide +kernel
  have hplain : ((compileText options text).toOption.map fun c =>
      c.parameters.entries.map (·.name)) = some ["implicit_0"] := by decide +kernel
  obtain ⟨c, hc, hnames⟩ := Except.exists_of_toOption hscoped
  obtain ⟨d, hd, hnames'⟩ := Except.exists_of_toOption hplain
  refine ⟨c, hc, compileText_append_useFolders hc false, compileText_append_useFolders hc true,
    fun hsame => ?_, congrArg Prod.fst hnames, congrArg Prod.snd hnames⟩
  cases hd.symm.trans hsame
  exact absurd ((congrArg Prod.fst hnames).symm.trans hnames') (by decide)

end Query

end ReadLater
