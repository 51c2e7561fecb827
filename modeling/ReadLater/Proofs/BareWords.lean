import Mathlib.Data.Bool.AllAny
import Mathlib.Data.List.Induction
import ReadLater.Proofs.Decimal
import ReadLater.Proofs.Meaning
import ReadLater.Proofs.Requests
import ReadLater.Proofs.TextPieces
import ReadLater.Proofs.WrittenQueries

/-!
# Queries of bare words

A text of words parted by blanks is read as the conjunction of its words, and the leaf of a word is
handed on as a text of its own to the full-text language. There the word asks for an item that has
it, unless it is `or`: that asks for nothing, and nothing matches.
-/

namespace ReadLater

namespace Text

/-- The pieces between blanks, the empty ones left out. -/
def blankSeparated (cs : List Char) : List (List Char) :=
  (splitBy isBlank cs).filter fun w => !w.isEmpty

end Text

namespace Query

/-- Letters and digits that are no keyword. -/
structure IsPlainWord (w : List Char) : Prop where
  alphanumeric : ∀ c ∈ w, Text.isAlphanumeric c = true
  not_keyword : w ∉ ["AND".toList, "OR".toList, "NOT".toList]

instance (w : List Char) : Decidable (IsPlainWord w) :=
  decidable_of_iff (w.all Text.isAlphanumeric = true ∧
      w ≠ "AND".toList ∧ w ≠ "OR".toList ∧ w ≠ "NOT".toList) <| by
    have hkeywords : w ∉ ["AND".toList, "OR".toList, "NOT".toList] ↔
        w ≠ "AND".toList ∧ w ≠ "OR".toList ∧ w ≠ "NOT".toList := by
      simp only [List.mem_cons, List.not_mem_nil, or_false, not_or, ne_eq]
    rw [List.all_eq_true, ← hkeywords]
    exact ⟨fun h => ⟨h.1, h.2⟩, fun h => ⟨h.1, h.2⟩⟩

lemma isWordChar_of_isAlphanumeric {c : Char} (h : Text.isAlphanumeric c = true) :
    isWordChar c = true := by
  have hmarks : ∀ d ∈ ['(', ')', '"'], c ≠ d := by
    have hnone : ∀ d ∈ ['(', ')', '"'], Text.isAlphanumeric d = false :=
      List.all_iff_forall_prop.mp (by decide +kernel)
    exact fun d hd => Text.ne_of_isAlphanumeric h (hnone d hd)
  simp only [List.forall_mem_cons] at hmarks
  obtain ⟨hopening, hclosing, hquote, -⟩ := hmarks
  simp [isWordChar, Text.isBlank_of_isAlphanumeric h, hopening, hclosing, hquote]

lemma IsPlainWord.isBareWord {w : List Char} (h : IsPlainWord w) (hne : w ≠ []) : IsBareWord w where
  nonempty := hne
  plain c hc := isWordChar_of_isAlphanumeric (h.alphanumeric c hc)
  not_keyword := h.not_keyword
  not_negation hminus := by
    have hmem : '-' ∈ w := List.mem_of_mem_head? hminus
    have hnone : Text.isAlphanumeric '-' = false := by decide +kernel
    exact absurd rfl (Text.ne_of_isAlphanumeric (h.alphanumeric _ hmem) hnone)
  not_tag name value hw _ := by
    have hmem : ':' ∈ w := by simp [hw]
    have hnone : Text.isAlphanumeric ':' = false := by decide +kernel
    exact absurd rfl (Text.ne_of_isAlphanumeric (h.alphanumeric _ hmem) hnone)

lemma leaf_of_isBareWord {w : List Char} (h : IsBareWord w) :
    leaf w = text (String.ofList w) false := by
  rw [leaf_eq_freeLeaf h.not_tag, freeLeaf_of_isWordChar h.plain]

lemma wordTokens_of_isBareWord {w : List Char} (h : w ≠ [] → IsBareWord w) (start : Nat) :
    (wordTokens start w).map (·.token) = ([w].filter fun w => !w.isEmpty).map .term := by
  by_cases hne : w = []
  · subst hne
    rfl
  · have hterm : IsTerm w := ⟨hne, (h hne).not_keyword, (h hne).not_negation⟩
    simp [hterm.wordTokens, hne]

/-- Pieces between blanks that are bare words are the tokens; `word` is what was read of the first
piece. -/
lemma tokensFrom_pieces {cs piece : List Char} {pieces : List (List Char)}
    (hcs : Text.splitBy Text.isBlank cs = piece :: pieces) (word : List Char)
    (h : ∀ w ∈ (word.reverse ++ piece) :: pieces, w ≠ [] → IsBareWord w) (offset start : Nat) :
    ∃ ts, tokensFrom offset start word none cs = .ok ts ∧ ts.map (·.token) =
      (((word.reverse ++ piece) :: pieces).filter fun w => !w.isEmpty).map .term := by
  induction cs generalizing piece pieces word offset start with
  | nil =>
    cases hcs
    rw [List.append_nil] at h ⊢
    exact ⟨_, rfl, wordTokens_of_isBareWord (h _ List.mem_cons_self) start⟩
  | cons c rest ih =>
    obtain ⟨next, more, hrest⟩ := Text.exists_splitBy_cons Text.isBlank rest
    by_cases hblank : Text.isBlank c = true
    · rw [Text.splitBy_cons_of_separator hblank, hrest] at hcs
      cases hcs
      have hquote : c ≠ '"' := by
        rintro rfl
        exact absurd hblank (by decide)
      rw [List.append_nil] at h ⊢
      obtain ⟨ts, hts, hkinds⟩ := ih hrest [] (fun w hw => h w (List.mem_cons_of_mem _ hw))
        (offset + c.utf8Size) (offset + c.utf8Size)
      simp only [tokensFrom, if_neg hquote, hblank, hts]
      refine ⟨_, rfl, ?_⟩
      rw [List.map_append, wordTokens_of_isBareWord (h _ List.mem_cons_self), hkinds,
        ← List.map_append, ← List.filter_append]
      rfl
    · rw [Text.splitBy_cons_of_not hblank hrest] at hcs
      cases hcs
      have hc : isWordChar c = true :=
        (h _ List.mem_cons_self (by simp)).plain c (by simp)
      have hquote := ne_quote_of_isWordChar hc
      simp only [isWordChar, Bool.and_eq_true, Bool.not_eq_true', bne_iff_ne] at hc
      obtain ⟨⟨⟨-, hopening⟩, hclosing⟩, -⟩ := hc
      have happend : word.reverse ++ c :: next = (c :: word).reverse ++ next := by simp
      rw [happend] at h ⊢
      simp only [tokensFrom, if_neg hquote, hblank, hopening, hclosing]
      exact ih hrest (c :: word) h _ _

/-- The conjunction of words, which leans to the left. -/
def conjunction (w : List Char) (ws : List (List Char)) : Query :=
  ws.foldl (fun q v => .logical .and q (leaf v)) (leaf w)

lemma derives_conjunction (w : List Char) (ws : List (List Char)) :
    Derives .conjunction ((w :: ws).map .term) (conjunction w ws) := by
  induction ws using List.reverseRecOn with
  | nil => exact .factor (.operand (.term w))
  | append_singleton ws v ih =>
    rw [conjunction, List.foldl_concat, ← List.cons_append, List.map_append]
    exact .implicitAnd ih (.operand (.term v))

/-- Bare words between blanks are read as their conjunction. -/
theorem parse_bareWords {text : String} {w : List Char} {ws : List (List Char)}
    (htext : Text.blankSeparated text.toList = w :: ws)
    (h : ∀ v ∈ Text.blankSeparated text.toList, IsBareWord v) :
    parse text = .ok (conjunction w ws) := by
  obtain ⟨piece, pieces, hpieces⟩ := Text.exists_splitBy_cons Text.isBlank text.toList
  have hbare : ∀ v ∈ piece :: pieces, v ≠ [] → IsBareWord v := by
    intro v hv hne
    refine h v (List.mem_filter.mpr ⟨hpieces ▸ hv, ?_⟩)
    simpa using hne
  obtain ⟨ts, hts, hkinds⟩ := tokensFrom_pieces hpieces [] hbare 0 0
  have hterms : ts.map (·.token) = (w :: ws).map .term := by
    rw [← htext, Text.blankSeparated, hpieces]
    exact hkinds
  have hne : ts ≠ [] := by
    rintro rfl
    cases hterms
  rw [parse_of_tokens hts]
  refine (ofTokens_eq_ok_iff hne).mpr ?_
  rw [hterms]
  exact .alternative (derives_conjunction w ws)

end Query

/-! ## What one word asks for -/

namespace FullText

lemma parse_alphanumeric {w : List Char} (h : ∀ c ∈ w, Text.isAlphanumeric c = true)
    (hne : w ≠ []) : Query.parse (String.ofList w) =
      if w.map Char.toLower = ['o', 'r'] then ⟨[]⟩
      else ⟨[[⟨[singular (Text.lowerChars w)], false⟩]]⟩ := by
  have hpieces : pieces w = [⟨w, false⟩] := by
    have hend : ∀ c ∈ ([] : List Char).head?, Text.isBlank c = true := by simp
    have hone := pieces_plain (fun c hc => plain_of_isAlphanumeric (h c hc)) hne hend
    simpa using hone
  have hterm : Piece.term? ⟨w, false⟩ = some ⟨[singular (Text.lowerChars w)], false⟩ := by
    obtain ⟨c, rest, rfl⟩ := List.exists_cons_of_ne_nil hne
    have hminus : c ≠ '-' :=
      Text.ne_of_isAlphanumeric (h c List.mem_cons_self) (by decide +kernel)
    simp [Piece.term?, hminus, wordLists_alphanumeric h hne]
  rw [Query.parse, String.toList_ofList, hpieces]
  by_cases hor : w.map Char.toLower = ['o', 'r']
  · simp [collectGroups, Piece.isOr, hor]
  · simp [collectGroups, Piece.isOr, hor, hterm, addTerm]

lemma holds_alphanumeric_iff {w : List Char} (h : ∀ c ∈ w, Text.isAlphanumeric c = true)
    (hne : w ≠ []) (document : String) :
    (Query.parse (String.ofList w)).holds document = true ↔
      w.map Char.toLower ≠ ['o', 'r'] ∧
        singular (Text.lowerChars w) ∈ wordLists document.toList := by
  rw [parse_alphanumeric h hne]
  by_cases hor : w.map Char.toLower = ['o', 'r']
  · simp [hor, Query.holds, Query.isEmpty]
  · simp [hor, Query.holds_iff, Term.holds_iff, List.singleton_infix_iff]

end FullText

/-- A word that is not `or`, and that stands in the title or in the content. -/
def Item.HasBareWord (i : Item) (w : List Char) : Prop :=
  w.map Char.toLower ≠ ['o', 'r'] ∧
    (FullText.singular (Text.lowerChars w) ∈ FullText.wordLists i.title.toList ∨
      FullText.singular (Text.lowerChars w) ∈ FullText.wordLists i.content.toList)

instance (i : Item) (w : List Char) : Decidable (i.HasBareWord w) :=
  inferInstanceAs (Decidable (_ ∧ _))

namespace Query

variable {options : CompileOptions} {clock : Time.Instant} {i : Item} {w : List Char}

/-- The contribution of a word after `bound` bound values. -/
lemma contribution_leaf (h : IsPlainWord w) (hne : w ≠ []) (bound : Nat) :
    Tag.contribution ⟨.freeText, .literal (.string (String.ofList w)) false⟩ options bound =
      .ok (TagOperand.freeText ⟨"implicit", String.ofList w, false⟩ bound) := by
  have htrim : Text.trim (String.ofList w) = String.ofList w :=
    Text.trim_of_not_blank fun c hc => Text.isBlank_of_isAlphanumeric (h.alphanumeric c hc)
  have hnonempty : String.ofList w ≠ "" := by simpa using hne
  simp [Tag.contribution, Operand.text, Operand.isQuoted, htrim, hnonempty]

lemma holds_document_iff (h : IsPlainWord w) (hne : w ≠ []) (i : Item) :
    (FullText.Query.parse (String.ofList w)).holds (i.title ++ " " ++ i.content) = true ↔
      i.HasBareWord w := by
  rw [FullText.holds_alphanumeric_iff h.alphanumeric hne, FullText.wordLists_append_blank,
    List.mem_append]
  rfl

lemma meaning_leaf (h : IsPlainWord w) (hne : w ≠ []) :
    (leaf w).meaning options clock i = .ok (some (some (decide (i.HasBareWord w)))) := by
  rw [leaf_of_isBareWord (h.isBareWord hne)]
  refine meaning_tag (contribution_leaf h hne 0) (.present ?_)
  have hholds := Bool.eq_iff_iff.mpr ((holds_document_iff h hne i).trans
    (decide_eq_true_iff (p := i.HasBareWord w)).symm)
  rw [← hholds]
  rfl

lemma meaning_conjunction {w : List Char} {ws : List (List Char)}
    (h : ∀ v ∈ w :: ws, IsPlainWord v ∧ v ≠ []) :
    (conjunction w ws).meaning options clock i =
      .ok (some (some (decide (∀ v ∈ w :: ws, i.HasBareWord v)))) := by
  induction ws using List.reverseRecOn with
  | nil =>
    obtain ⟨hw, hne⟩ := h w List.mem_cons_self
    simpa [conjunction] using meaning_leaf hw hne
  | append_singleton ws v ih =>
    rw [← List.cons_append] at h ⊢
    obtain ⟨hws, hv⟩ := List.forall_mem_append.mp h
    obtain ⟨hplain, hne⟩ := hv v (List.mem_singleton_self v)
    rw [conjunction, List.foldl_concat, meaning, ← conjunction, ih hws, meaning_leaf hplain hne]
    have hand : ∀ a b : Bool, Truth.and (some a) (some b) = some (a && b) := by decide
    have hboth : decide (∀ u ∈ w :: ws ++ [v], i.HasBareWord u) =
        (decide (∀ u ∈ w :: ws, i.HasBareWord u) && decide (i.HasBareWord v)) := by
      rw [← Bool.decide_and, decide_eq_decide, List.forall_mem_append, List.forall_mem_singleton]
    rw [hboth, ← hand]
    rfl

lemma exists_compiles_conjunction (options : CompileOptions) {w : List Char}
    {ws : List (List Char)} (h : ∀ v ∈ w :: ws, IsPlainWord v ∧ v ≠ []) :
    ∃ p acc, Compiles options true (conjunction w ws) {} p acc := by
  have hleaf (v : List Char) (hv : IsPlainWord v ∧ v ≠ []) (acc : Accumulator) :
      ∃ p acc', Compiles options true (leaf v) acc p acc' := by
    rw [leaf_of_isBareWord (hv.1.isBareWord hv.2)]
    exact ⟨_, _, .tag (contribution_leaf hv.1 hv.2 _)⟩
  induction ws using List.reverseRecOn with
  | nil => exact hleaf w (h w List.mem_cons_self) {}
  | append_singleton ws v ih =>
    rw [← List.cons_append] at h
    obtain ⟨hws, hv⟩ := List.forall_mem_append.mp h
    obtain ⟨p, acc, hleft⟩ := ih hws
    obtain ⟨p', acc', hright⟩ := hleaf v (hv v (List.mem_singleton_self v)) acc
    rw [conjunction, List.foldl_concat]
    exact ⟨_, _, .logical hleft hright⟩

/-- A text of bare words is compiled, and its filter accepts just the items that have each of the
words; but a word that is `or` in any case of its letters lets no item through. -/
theorem compileText_bareWords (options : CompileOptions) (text : String)
    (hne : Text.blankSeparated text.toList ≠ [])
    (h : ∀ w ∈ Text.blankSeparated text.toList, IsPlainWord w) :
    ∃ c, compileText options text = .ok c ∧ ∀ (clock : Time.Instant) (i : Item),
      c.filter.accepts clock i =
        .ok (decide (∀ w ∈ Text.blankSeparated text.toList, i.HasBareWord w)) := by
  obtain ⟨w, ws, htext⟩ := List.exists_cons_of_ne_nil hne
  have hwords : ∀ v ∈ Text.blankSeparated text.toList, IsPlainWord v ∧ v ≠ [] := by
    refine fun v hv => ⟨h v hv, ?_⟩
    simpa using (List.mem_filter.mp hv).2
  have hparse := parse_bareWords htext fun v hv => (h v hv).isBareWord (hwords v hv).2
  rw [htext] at hwords ⊢
  obtain ⟨p, acc, hcompiles⟩ := exists_compiles_conjunction
    { options with foldersScoped := options.foldersScoped || wantsFolders text } hwords
  obtain ⟨c, hc, hpredicate, hparameters, -⟩ := exists_compile hcompiles
  refine ⟨c, ?_, fun clock i => ?_⟩
  · unfold compileText
    rw [hparse]
    exact hc
  · obtain ⟨m, hmeaning, htells⟩ := hcompiles.tells clock i
    rw [meaning_conjunction hwords] at hmeaning
    cases hmeaning
    have haccepts := (htells c.parameters (numbered_of_compile hc)
      (hparameters ▸ List.prefix_rfl)).accepts
    rw [Compiled.filter, hpredicate, haccepts]
    simp

/-- Words of the title and of the content in another case and number; and one word too many. -/
theorem compileText_bareWords_in_both :
    let options : CompileOptions := ⟨false, ⟨.epoch, 0⟩, .monday⟩
    let i := { Item.saved "a" "u1" "Best coffee of 2024" .epoch with content := "Beans, ÄPFEL" }
    (∃ c, compileText options " COFFEE\tbean\u3000äpfel 2024" = .ok c ∧
      c.filter.accepts .epoch i = .ok true) ∧
    ∃ c, compileText options "coffee beans Or tea" = .ok c ∧
      c.filter.accepts .epoch i = .ok false := by
  intro options i
  have hfound : ∀ w ∈ Text.blankSeparated " COFFEE\tbean\u3000äpfel 2024".toList,
      i.HasBareWord w := by decide +kernel
  have hlost : ¬∀ w ∈ Text.blankSeparated "coffee beans Or tea".toList, i.HasBareWord w := by
    decide +kernel
  obtain ⟨c, hc, haccepts⟩ := compileText_bareWords options " COFFEE\tbean\u3000äpfel 2024"
    (by decide) (by decide +kernel)
  obtain ⟨d, hd, haccepts'⟩ := compileText_bareWords options "coffee beans Or tea"
    (by decide) (by decide +kernel)
  refine ⟨⟨c, hc, ?_⟩, d, hd, ?_⟩
  · rw [haccepts, decide_eq_true hfound]
  · rw [haccepts', decide_eq_false hlost]

/-- All words of the text stand in the title, but `or` is one of them. -/
theorem or_matches_nothing :
    let options : CompileOptions := ⟨false, ⟨.epoch, 0⟩, .monday⟩
    let text := "this or that"
    let i := Item.saved "a" "u1" "This or that" .epoch
    (∀ w ∈ Text.blankSeparated text.toList, IsPlainWord w ∧
      FullText.singular (Text.lowerChars w) ∈ FullText.wordLists i.title.toList) ∧
    ∃ c, compileText options text = .ok c ∧ c.filter.accepts .epoch i = .ok false := by
  intro options text i
  have hcompile : (compileText options text).toOption.map (fun c => c.filter.accepts .epoch i) =
      some (.ok false) := by decide +kernel
  obtain ⟨c, hc, haccepts⟩ := Except.exists_of_toOption hcompile
  exact ⟨by decide +kernel, c, hc, haccepts⟩

end Query

end ReadLater
