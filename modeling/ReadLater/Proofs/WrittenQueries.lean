import ReadLater.Proofs.Grammar

/-!
# Written queries

The texts that spell a query tree: AND may be left out, and a leaf may be negated by a minus sign.
A tree is canonical if it keeps to the precedence of the connectives without further parentheses and
each of its leaves can be written. Every text that spells a canonical tree is read back as the tree.
-/

namespace ReadLater.Query

/-- The character can stand in a word outside double quotes. -/
def isWordChar (c : Char) : Bool :=
  !Text.isBlank c && c != '(' && c != ')' && c != '"'

/-- A word that is neither a keyword nor a negation nor a tag. -/
structure IsBareWord (w : List Char) : Prop where
  nonempty : w ≠ []
  plain : ∀ c ∈ w, isWordChar c = true
  not_keyword : w ∉ ["AND".toList, "OR".toList, "NOT".toList]
  not_negation : w.head? = some '-' → w = ['-']
  /-- The address of a page is no tag. -/
  not_tag : ∀ name value, w = name ++ ':' :: value → isFieldName name = true →
    ['/', '/'] <+: value

/-- The tag can be written: its name is a field name, and an operand without quotes is a word. -/
inductive Tag.IsWritable : Tag → Prop
  | empty {name : String} : isFieldName name.toList = true →
      IsWritable ⟨.named name false, .empty⟩
  | quoted {name s : String} : isFieldName name.toList = true → s.toList ≠ [] →
      '"' ∉ s.toList → IsWritable ⟨.named name false, .literal (.string s) true⟩
  | unquoted {name s : String} : isFieldName name.toList = true → s.toList ≠ [] →
      (∀ c ∈ s.toList, isWordChar c = true) → ¬['/', '/'] <+: s.toList →
      IsWritable ⟨.named name false, .literal (.string s) false⟩
  | phrase {s : String} : '"' ∉ s.toList → IsWritable ⟨.freeText, .literal (.string s) true⟩
  | word {s : String} : IsBareWord s.toList →
      IsWritable ⟨.freeText, .literal (.string s) false⟩

def Operand.written (o : Operand) : List Char :=
  if o.isQuoted then '"' :: (o.text.toList ++ ['"']) else o.text.toList

def Tag.written (t : Tag) : List Char :=
  match t.field with
  | .named name _ => name.toList ++ ':' :: t.operand.written
  | .freeText => t.operand.written

/-- Tighter nonterminals have a higher level. -/
def Nonterminal.level : Nonterminal → Nat
  | .disjunction => 0
  | .conjunction => 1
  | .unary => 2
  | .primary => 3

/-- The tightest nonterminal that derives the tree, if any does. -/
def nonterminal : Query → Nonterminal
  | .logical .or _ _ => .disjunction
  | .logical .and _ _ => .conjunction
  | .negation _ _ => .unary
  | .empty | .tag _ | .group _ => .primary

/-- The tree binds at least as tightly as the nonterminal. -/
def Fits (n : Nonterminal) (q : Query) : Prop :=
  n.level ≤ q.nonterminal.level

instance (n : Nonterminal) (q : Query) : Decidable (q.Fits n) :=
  inferInstanceAs (Decidable (n.level ≤ q.nonterminal.level))

/-- Chains of one connective lean to the left, OR stands above AND, both stand above negations, and
the leaves can be written. Only a group may be empty. -/
def IsCanonical : Query → Prop
  | .empty => False
  | .tag t => t.IsWritable
  | .logical .or p q => p.IsCanonical ∧ q.IsCanonical ∧ q.Fits .conjunction
  | .logical .and p q => p.IsCanonical ∧ p.Fits .conjunction ∧ q.IsCanonical ∧ q.Fits .unary
  | .negation .word q => q.IsCanonical ∧ q.Fits .unary
  | .negation .minus _ => False
  | .group .empty => True
  | .group q => q.IsCanonical

/-- `Writes q cs`: the text `cs` spells the tree `q`. -/
inductive Writes : Query → List Char → Prop
  | leaf (t : Tag) : Writes (.tag t) t.written
  | or {p q cs ds} : Writes p cs → Writes q ds →
      Writes (.logical .or p q) (cs ++ " OR ".toList ++ ds)
  | and {p q cs ds} : Writes p cs → Writes q ds →
      Writes (.logical .and p q) (cs ++ " AND ".toList ++ ds)
  | implicitAnd {p q cs ds} : Writes p cs → Writes q ds →
      Writes (.logical .and p q) (cs ++ " ".toList ++ ds)
  | not {q cs} : Writes q cs → Writes (.negation .word q) ("NOT ".toList ++ cs)
  | minus (t : Tag) : Writes (.negation .word (.tag t)) ('-' :: t.written)
  | emptyGroup : Writes (.group .empty) "()".toList
  | group {q cs} : Writes q cs → Writes (.group q) ('(' :: cs ++ [')'])

/-- One of the texts that spell a tree. -/
def written : Query → List Char
  | .empty => []
  | .tag t => t.written
  | .logical .or p q => p.written ++ " OR ".toList ++ q.written
  | .logical .and p q => p.written ++ " ".toList ++ q.written
  | .negation _ q => "NOT ".toList ++ q.written
  | .group q => '(' :: q.written ++ [')']

theorem writes_written {q : Query} (hq : q.IsCanonical) : Writes q q.written := by
  induction q with
  | empty => exact hq.elim
  | tag t => exact .leaf t
  | logical connective p q ihp ihq =>
    cases connective with
    | or => exact .or (ihp hq.1) (ihq hq.2.1)
    | and => exact .implicitAnd (ihp hq.1) (ihq hq.2.2.1)
  | negation mark q ih =>
    cases mark with
    | word => exact .not (ih hq.1)
    | minus => exact hq.elim
  | group q ih =>
    cases q with
    | empty => exact .emptyGroup
    | tag | logical | negation | group => exact .group (ih hq)

/-! ## Words are read as leaves -/

lemma isFieldName_ne_colon {name : List Char} (h : isFieldName name = true) : ':' ∉ name := by
  cases name with
  | nil => simp
  | cons c rest =>
    simp only [isFieldName, Bool.and_eq_true, List.all_eq_true] at h
    intro hmem
    rcases List.mem_cons.mp hmem with rfl | hrest
    · exact absurd h.1 (by decide)
    · exact absurd (h.2 ':' hrest) (by decide)

lemma isFieldName_quote (cs : List Char) : isFieldName ('"' :: cs) = false := by
  have hquote : Text.isAsciiLetter '"' = false := by decide
  simp [isFieldName, hquote]

lemma unquote?_quoted (cs : List Char) : unquote? ('"' :: (cs ++ ['"'])) = some cs := by
  simp [unquote?]

lemma isWordChar_iff {c : Char} :
    isWordChar c = true ↔ ¬Text.isBlank c = true ∧ c ∉ ['"', '(', ')'] := by
  simp only [isWordChar, Bool.and_eq_true, Bool.not_eq_true', Bool.not_eq_true, bne_iff_ne,
    List.mem_cons, List.not_mem_nil, or_false, not_or]
  tauto

lemma ne_quote_of_isWordChar {c : Char} (h : isWordChar c = true) : c ≠ '"' :=
  List.ne_of_not_mem_cons (isWordChar_iff.mp h).2

lemma unquote?_of_isWordChar {cs : List Char} (h : ∀ c ∈ cs, isWordChar c = true) :
    unquote? cs = none := by
  cases cs with
  | nil => rfl
  | cons c rest =>
    have hc := ne_quote_of_isWordChar (h c List.mem_cons_self)
    unfold unquote?
    split
    · rename_i heq
      exact absurd (List.cons.inj heq).1 hc
    · rfl

/-- The leaf of a word that is no tag. -/
def freeLeaf (w : List Char) : Query :=
  match unquote? w with
  | some inner => text (String.ofList inner) true
  | none => text (String.ofList w) false

lemma freeLeaf_quoted (cs : List Char) :
    freeLeaf ('"' :: (cs ++ ['"'])) = text (String.ofList cs) true := by
  rw [freeLeaf, unquote?_quoted]

lemma freeLeaf_of_isWordChar {cs : List Char} (h : ∀ c ∈ cs, isWordChar c = true) :
    freeLeaf cs = text (String.ofList cs) false := by
  rw [freeLeaf, unquote?_of_isWordChar h]

lemma leaf_of_isFieldName {name value : List Char} (hname : isFieldName name = true)
    (hvalue : ¬['/', '/'] <+: value) :
    leaf (name ++ ':' :: value) = .tag ⟨.named (String.ofList name) false, operandOf value⟩ := by
  have hsplit := Text.splitOnce?_of_notMem (isFieldName_ne_colon hname) value
  have haddress : ['/', '/'].isPrefixOf value = false := by
    rw [← Bool.not_eq_true, List.isPrefixOf_iff_prefix]
    exact hvalue
  simp [leaf, hsplit, hname, haddress]

lemma leaf_eq_freeLeaf {w : List Char}
    (h : ∀ name value, w = name ++ ':' :: value → isFieldName name = true →
      ['/', '/'] <+: value) : leaf w = freeLeaf w := by
  unfold leaf
  cases hsplit : Text.splitOnce? ':' w with
  | none => rfl
  | some parts =>
    obtain ⟨name, value⟩ := parts
    have hw := Text.eq_append_of_splitOnce? hsplit
    by_cases hname : isFieldName name = true
    · have haddress := List.isPrefixOf_iff_prefix.mpr (h name value hw hname)
      simp only [hname, haddress]
      rfl
    · simp only [hname]
      rfl

lemma leaf_quoted (cs : List Char) :
    leaf ('"' :: (cs ++ ['"'])) = text (String.ofList cs) true := by
  rw [← freeLeaf_quoted]
  apply leaf_eq_freeLeaf
  intro name value hw hname
  cases name with
  | nil => cases hname
  | cons c rest =>
    obtain ⟨rfl, -⟩ := List.cons.inj hw
    rw [isFieldName_quote] at hname
    cases hname

instance (w : List Char) : Decidable (IsBareWord w) :=
  decidable_of_iff
    (w ≠ [] ∧ w.all isWordChar = true ∧ w ∉ ["AND".toList, "OR".toList, "NOT".toList] ∧
      (w.head? = some '-' → w = ['-']) ∧
      ∀ parts ∈ Text.splitOnce? ':' w, isFieldName parts.1 = true → ['/', '/'] <+: parts.2) <| by
    constructor
    · rintro ⟨hnonempty, hplain, hkeyword, hnegation, htag⟩
      refine ⟨hnonempty, List.all_eq_true.mp hplain, hkeyword, hnegation,
        fun name value hw hname => ?_⟩
      have hsplit := Text.splitOnce?_of_notMem (isFieldName_ne_colon hname) value
      rw [← hw] at hsplit
      exact htag (name, value) hsplit hname
    · intro h
      refine ⟨h.nonempty, List.all_eq_true.mpr h.plain, h.not_keyword, h.not_negation,
        fun parts hparts => ?_⟩
      exact h.not_tag parts.1 parts.2 (Text.eq_append_of_splitOnce? hparts)

lemma leaf_written {t : Tag} (h : t.IsWritable) : leaf t.written = .tag t := by
  cases h with
  | empty hname =>
    have haddress : ¬['/', '/'] <+: ([] : List Char) := by decide
    refine (leaf_of_isFieldName hname haddress).trans ?_
    simp [operandOf, unquote?]
  | @quoted name s hname hnonempty _ =>
    have haddress : ¬['/', '/'] <+: '"' :: (s.toList ++ ['"']) := by simp
    refine (leaf_of_isFieldName hname haddress).trans ?_
    simp [operandOf, unquote?_quoted, hnonempty]
  | unquoted hname hnonempty hplain haddress =>
    refine (leaf_of_isFieldName hname haddress).trans ?_
    simp [operandOf, unquote?_of_isWordChar hplain, hnonempty]
  | @phrase s _ =>
    refine (leaf_quoted s.toList).trans ?_
    rw [String.ofList_toList]
    rfl
  | word hbare =>
    refine (leaf_eq_freeLeaf hbare.not_tag).trans ?_
    rw [freeLeaf_of_isWordChar hbare.plain, String.ofList_toList]
    rfl

/-! ## Words are cut at their ends -/

/-- The characters go into one word, before which a quote stands open if `inQuotes` holds. -/
def Unbroken : Bool → List Char → Prop
  | inQuotes, [] => inQuotes = false
  | inQuotes, c :: rest =>
    if c = '"' then Unbroken (!inQuotes) rest
    else (inQuotes = true ∨ isWordChar c = true) ∧ Unbroken inQuotes rest

lemma unbroken_append {w v : List Char} (hw : ∀ c ∈ w, isWordChar c = true)
    (hv : Unbroken false v) : Unbroken false (w ++ v) := by
  induction w with
  | nil => exact hv
  | cons c w ih =>
    obtain ⟨hc, hw⟩ := List.forall_mem_cons.mp hw
    rw [List.cons_append, Unbroken, if_neg (ne_quote_of_isWordChar hc)]
    exact ⟨.inr hc, ih hw⟩

lemma unbroken_of_isWordChar {w : List Char} (hw : ∀ c ∈ w, isWordChar c = true) :
    Unbroken false w := by
  have happend := unbroken_append (v := []) hw rfl
  rwa [List.append_nil] at happend

lemma unbroken_quoted {cs : List Char} (h : '"' ∉ cs) :
    Unbroken false ('"' :: (cs ++ ['"'])) := by
  have hinside : Unbroken true (cs ++ ['"']) := by
    induction cs with
    | nil => simp [Unbroken]
    | cons c cs ih =>
      obtain ⟨hc, hcs⟩ := not_or.mp (mt List.mem_cons.mpr h)
      rw [List.cons_append, Unbroken, if_neg (Ne.symm hc)]
      exact ⟨.inl rfl, ih hcs⟩
  simpa [Unbroken] using hinside

lemma isWordChar_of_isFieldName {name : List Char} (h : isFieldName name = true) :
    ∀ c ∈ name, isWordChar c = true := by
  have hascii {c : Char}
      (hc : (Text.isAsciiLetter c || Text.isAsciiDigit c || decide (c = '_')) = true) :
      isWordChar c = true := by
    simp only [Text.isAsciiLetter, Text.isAsciiDigit, Bool.or_eq_true, Bool.and_eq_true,
      decide_eq_true_eq, Char.le_def, UInt32.le_iff_toNat_le] at hc
    have hcode : 97 ≤ c.toNat ∧ c.toNat ≤ 122 ∨ 65 ≤ c.toNat ∧ c.toNat ≤ 90 ∨
        48 ≤ c.toNat ∧ c.toNat ≤ 57 ∨ c.toNat = 95 := by
      rcases hc with ((hlower | hupper) | hdigit) | rfl
      · exact .inl hlower
      · exact .inr (.inl hupper)
      · exact .inr (.inr (.inl hdigit))
      · exact .inr (.inr (.inr rfl))
    have hblank : Text.isBlank c = false := by
      simp [Text.isBlank]
      omega
    have hmark : c ∉ ['(', ')', '"'] := by
      intro hmem
      simp only [List.mem_cons, List.not_mem_nil, or_false] at hmem
      rcases hmem with rfl | rfl | rfl <;> revert hcode <;> decide
    simp only [List.mem_cons, List.not_mem_nil, or_false, not_or] at hmark
    simp [isWordChar, hblank, hmark]
  cases name with
  | nil => simp
  | cons c rest =>
    simp only [isFieldName, Bool.and_eq_true, List.all_eq_true] at h
    intro d hd
    apply hascii
    rcases List.mem_cons.mp hd with rfl | hrest
    · rw [h.1, Bool.true_or, Bool.true_or]
    · exact h.2 d hrest

lemma unbroken_written {t : Tag} (h : t.IsWritable) : Unbroken false t.written := by
  have hnamed {name value : List Char} (hname : isFieldName name = true)
      (hvalue : Unbroken false value) : Unbroken false (name ++ ':' :: value) := by
    refine unbroken_append (isWordChar_of_isFieldName hname) ?_
    have hcolon : ∀ c ∈ [':'], isWordChar c = true := List.forall_mem_singleton.mpr (by decide)
    exact unbroken_append hcolon hvalue
  cases h with
  | empty hname => exact hnamed hname rfl
  | quoted hname _ hquote => exact hnamed hname (unbroken_quoted hquote)
  | unquoted hname _ hplain _ => exact hnamed hname (unbroken_of_isWordChar hplain)
  | phrase hquote => exact unbroken_quoted hquote
  | word hbare => exact unbroken_of_isWordChar hbare.plain

/-- A word ends where the text does, or before a blank or a parenthesis. -/
def EndsWord : List Char → Prop
  | [] => True
  | c :: _ => Text.isBlank c = true ∨ c = '(' ∨ c = ')'

lemma tokensFrom_word {w rest : List Char} (quote : Option Nat) (hw : Unbroken quote.isSome w)
    (offset start : Nat) (word : List Char) :
    ∃ offset' start', tokensFrom offset start word quote (w ++ rest) =
      tokensFrom offset' start' (w.reverse ++ word) none rest := by
  induction w generalizing quote offset start word with
  | nil =>
    cases quote with
    | none => exact ⟨offset, start, rfl⟩
    | some q => cases hw
  | cons c w ih =>
    rw [List.cons_append, List.reverse_cons, List.append_assoc, List.singleton_append]
    rw [Unbroken] at hw
    by_cases hquote : c = '"'
    · rw [if_pos hquote] at hw
      simp only [tokensFrom, if_pos hquote]
      cases quote with
      | none => exact ih (some offset) hw _ _ _
      | some q => exact ih none hw _ _ _
    · rw [if_neg hquote] at hw
      obtain ⟨hc, hw⟩ := hw
      simp only [tokensFrom, if_neg hquote]
      cases quote with
      | some q => exact ih (some q) hw _ _ _
      | none =>
        have hplain : isWordChar c = true := hc.resolve_left Bool.false_ne_true
        simp only [isWordChar, Bool.and_eq_true, Bool.not_eq_true', bne_iff_ne] at hplain
        obtain ⟨⟨⟨hblank, hopening⟩, hclosing⟩, -⟩ := hplain
        simp only [Option.isSome_none, hblank, hopening, hclosing, Bool.false_eq_true, or_self,
          if_false]
        exact ih none hw _ _ _

lemma tokensFrom_ends {rest : List Char} (h : EndsWord rest) (offset start : Nat)
    (word : List Char) :
    tokensFrom offset start word none rest =
      (tokensFrom offset start [] none rest).map (wordTokens start word.reverse ++ ·) := by
  cases rest with
  | nil => simp [tokensFrom, wordTokens, Except.map]
  | cons c rest =>
    have hquote : c ≠ '"' := by
      rintro rfl
      rcases h with hblank | hbracket | hbracket
      · exact absurd hblank (by decide)
      · exact absurd hbracket (by decide)
      · exact absurd hbracket (by decide)
    have hstart : wordTokens (if word.isEmpty then offset else start) word.reverse =
        wordTokens start word.reverse := by
      cases word with
      | nil => rfl
      | cons d word => rfl
    simp only [tokensFrom, if_neg hquote, hstart]
    by_cases hblank : Text.isBlank c = true
    · simp only [hblank]
      cases tokensFrom (offset + c.utf8Size) (offset + c.utf8Size) [] none rest <;> rfl
    · have hbracket : c = '(' ∨ c = ')' := h.resolve_left hblank
      simp only [hblank, hbracket]
      cases tokensFrom (offset + c.utf8Size) (offset + c.utf8Size) [] none rest <;> rfl

/-- The text is cut into these tokens, wherever it stands. -/
def CutsInto (cs : List Char) (us : List Token) : Prop :=
  ∀ offset start, ∃ ts, tokensFrom offset start [] none cs = .ok ts ∧ ts.map (·.token) = us

lemma cutsInto_nil : CutsInto [] [] :=
  fun _ _ => ⟨[], rfl, rfl⟩

lemma CutsInto.blank {rest : List Char} {us : List Token} (h : CutsInto rest us) :
    CutsInto (' ' :: rest) us := by
  intro offset start
  obtain ⟨ts, hts, rfl⟩ := h (offset + ' '.utf8Size) (offset + ' '.utf8Size)
  have hcut : tokensFrom offset start [] none (' ' :: rest) =
      (tokensFrom (offset + ' '.utf8Size) (offset + ' '.utf8Size) [] none rest).map
        (wordTokens offset [] ++ ·) := rfl
  rw [hcut, hts]
  exact ⟨ts, rfl, rfl⟩

lemma CutsInto.opening {rest : List Char} {us : List Token} (h : CutsInto rest us) :
    CutsInto ('(' :: rest) (.opening :: us) := by
  intro offset start
  obtain ⟨ts, hts, rfl⟩ := h (offset + '('.utf8Size) (offset + '('.utf8Size)
  have hcut : tokensFrom offset start [] none ('(' :: rest) =
      (tokensFrom (offset + '('.utf8Size) (offset + '('.utf8Size) [] none rest).map
        (wordTokens offset [] ++ ⟨.opening, offset⟩ :: ·) := rfl
  rw [hcut, hts]
  exact ⟨_, rfl, rfl⟩

lemma CutsInto.closing {rest : List Char} {us : List Token} (h : CutsInto rest us) :
    CutsInto (')' :: rest) (.closing :: us) := by
  intro offset start
  obtain ⟨ts, hts, rfl⟩ := h (offset + ')'.utf8Size) (offset + ')'.utf8Size)
  have hcut : tokensFrom offset start [] none (')' :: rest) =
      (tokensFrom (offset + ')'.utf8Size) (offset + ')'.utf8Size) [] none rest).map
        (wordTokens offset [] ++ ⟨.closing, offset⟩ :: ·) := rfl
  rw [hcut, hts]
  exact ⟨_, rfl, rfl⟩

lemma CutsInto.word {w rest : List Char} {us vs : List Token} (hw : Unbroken false w)
    (hkinds : ∀ offset, (wordTokens offset w).map (·.token) = us) (hrest : EndsWord rest)
    (h : CutsInto rest vs) : CutsInto (w ++ rest) (us ++ vs) := by
  intro offset start
  obtain ⟨offset', start', hcut⟩ := tokensFrom_word none hw offset start []
  obtain ⟨ts, hts, rfl⟩ := h offset' start'
  refine ⟨wordTokens start' w ++ ts, ?_, ?_⟩
  · rw [hcut, List.append_nil, tokensFrom_ends hrest, hts, List.reverse_reverse]
    rfl
  · rw [List.map_append, hkinds]

/-- The word is a token of its own. -/
structure IsTerm (w : List Char) : Prop where
  nonempty : w ≠ []
  not_keyword : w ∉ ["AND".toList, "OR".toList, "NOT".toList]
  not_negation : w.head? = some '-' → w = ['-']

lemma IsTerm.wordTokens {w : List Char} (h : IsTerm w) (offset : Nat) :
    wordTokens offset w = [⟨.term w, offset⟩] := by
  cases w with
  | nil => exact absurd rfl h.nonempty
  | cons c rest =>
    have hkeyword : keyword? (c :: rest) = none := by
      have hwords := h.not_keyword
      simp only [List.mem_cons, List.not_mem_nil, or_false, not_or] at hwords
      obtain ⟨hand, hor, hnot⟩ := hwords
      exact (if_neg hand).trans ((if_neg hor).trans (if_neg hnot))
    have hminus : ¬(c = '-' ∧ rest ≠ []) := by
      rintro ⟨rfl, hne⟩
      exact hne (List.cons.inj (h.not_negation rfl)).2
    rw [Query.wordTokens, hkeyword]
    exact if_neg hminus

lemma wordTokens_minus {w : List Char} (h : w ≠ []) (offset : Nat) :
    wordTokens offset ('-' :: w) = ⟨.not, offset⟩ :: wordTokens (offset + 1) w := by
  have hkeyword : keyword? ('-' :: w) = none := by simp [keyword?]
  rw [wordTokens, hkeyword]
  exact if_pos ⟨rfl, h⟩

lemma isTerm_of_colon {w : List Char} {c : Char} (hletter : Text.isAsciiLetter c = true)
    (hcolon : ':' ∈ c :: w) : IsTerm (c :: w) where
  nonempty := by simp
  not_keyword hmem := by
    simp only [List.mem_cons, List.not_mem_nil, or_false] at hmem
    rcases hmem with hand | hor | hnot
    · rw [hand] at hcolon
      exact absurd hcolon (by decide)
    · rw [hor] at hcolon
      exact absurd hcolon (by decide)
    · rw [hnot] at hcolon
      exact absurd hcolon (by decide)
  not_negation hminus := by
    cases Option.some.inj hminus
    exact absurd hletter (by decide)

lemma isTerm_quote (w : List Char) : IsTerm ('"' :: w) where
  nonempty := by simp
  not_keyword := by simp
  not_negation := by simp

lemma isTerm_written {t : Tag} (h : t.IsWritable) : IsTerm t.written := by
  have hnamed {name value : List Char} (hname : isFieldName name = true) :
      IsTerm (name ++ ':' :: value) := by
    cases name with
    | nil => cases hname
    | cons c rest =>
      rw [isFieldName, Bool.and_eq_true] at hname
      exact isTerm_of_colon hname.1 (by simp)
  cases h with
  | empty hname => exact hnamed hname
  | quoted hname _ _ => exact hnamed hname
  | unquoted hname _ _ _ => exact hnamed hname
  | phrase _ => exact isTerm_quote _
  | word hbare => exact ⟨hbare.nonempty, hbare.not_keyword, hbare.not_negation⟩

/-! ## Texts are cut into the tokens of their trees -/

/-- At the end of a word the text is cut into these tokens. -/
def Spells (cs : List Char) (us : List Token) : Prop :=
  ∀ rest vs, EndsWord rest → CutsInto rest vs → CutsInto (cs ++ rest) (us ++ vs)

lemma Spells.word {w : List Char} {us : List Token} (hw : Unbroken false w)
    (hkinds : ∀ offset, (wordTokens offset w).map (·.token) = us) : Spells w us :=
  fun _ _ hrest h => h.word hw hkinds hrest

lemma Spells.append_blank {cs ds : List Char} {us vs : List Token} (h : Spells cs us)
    (h' : Spells ds vs) : Spells (cs ++ " ".toList ++ ds) (us ++ vs) := by
  intro rest ws hrest hcut
  have hblank : EndsWord (' ' :: (ds ++ rest)) := by
    left
    decide
  rw [List.append_assoc, List.append_assoc, List.append_assoc]
  exact h _ _ hblank (h' rest ws hrest hcut).blank

lemma Spells.parenthesized {cs : List Char} {us : List Token} (h : Spells cs us) :
    Spells ('(' :: cs ++ [')']) (.opening :: (us ++ [.closing])) := by
  intro rest vs _ hcut
  have hclosing : EndsWord (')' :: rest) := by
    right
    right
    rfl
  have hinner := h _ _ hclosing hcut.closing
  simpa using hinner.opening

lemma spells_nil : Spells [] [] :=
  fun _ _ _ h => h

lemma spells_keyword {w : String} {token : Token} (hplain : w.toList.all isWordChar = true)
    (hkinds : ∀ offset, wordTokens offset w.toList = [⟨token, offset⟩]) :
    Spells w.toList [token] := by
  apply Spells.word (unbroken_of_isWordChar (List.all_eq_true.mp hplain))
  intro offset
  rw [hkinds]
  rfl

lemma Spells.append_keyword {cs ds : List Char} {us vs : List Token} {w : String} {token : Token}
    (h : Spells cs us) (hword : Spells w.toList [token]) (h' : Spells ds vs) :
    Spells (cs ++ (' ' :: w.toList ++ [' ']) ++ ds) (us ++ token :: vs) := by
  have hjoined := (h.append_blank hword).append_blank h'
  simpa using hjoined

lemma spells_written {t : Tag} (h : t.IsWritable) : Spells t.written [.term t.written] := by
  apply Spells.word (unbroken_written h)
  intro offset
  rw [(isTerm_written h).wordTokens]
  rfl

lemma spells_minus {t : Tag} (h : t.IsWritable) :
    Spells ('-' :: t.written) [.not, .term t.written] := by
  have hminus : ∀ c ∈ ['-'], isWordChar c = true := List.forall_mem_singleton.mpr (by decide)
  apply Spells.word (unbroken_append hminus (unbroken_written h))
  intro offset
  rw [List.singleton_append, wordTokens_minus (isTerm_written h).nonempty,
    (isTerm_written h).wordTokens]
  rfl

/-- What a tight nonterminal derives, a looser one does. -/
lemma Derives.loosen {m n : Nonterminal} {us : List Token} {q : Query} (h : Derives m us q)
    (hle : n.level ≤ m.level) : Derives n us q := by
  cases m with
  | disjunction =>
    cases n with
    | disjunction => exact h
    | conjunction | unary | primary => exact absurd hle (by decide)
  | conjunction =>
    cases n with
    | disjunction => exact .alternative h
    | conjunction => exact h
    | unary | primary => exact absurd hle (by decide)
  | unary =>
    cases n with
    | disjunction => exact .alternative (.factor h)
    | conjunction => exact .factor h
    | unary => exact h
    | primary => exact absurd hle (by decide)
  | primary =>
    cases n with
    | disjunction => exact .alternative (.factor (.operand h))
    | conjunction => exact .factor (.operand h)
    | unary => exact .operand h
    | primary => exact h

theorem Writes.exists_derives {q : Query} {cs : List Char} (h : Writes q cs)
    (hq : q.IsCanonical) : ∃ us, Derives q.nonterminal us q ∧ Spells cs us := by
  induction h with
  | leaf t =>
    have hterm := Derives.term t.written
    rw [leaf_written hq] at hterm
    exact ⟨_, hterm, spells_written hq⟩
  | or _ _ ihp ihq =>
    obtain ⟨us, hus, hleft⟩ := ihp hq.1
    obtain ⟨vs, hvs, hright⟩ := ihq hq.2.1
    have hword : Spells "OR".toList [.or] := spells_keyword (by decide) fun _ => rfl
    exact ⟨_, .or (hus.loosen (Nat.zero_le _)) (hvs.loosen hq.2.2),
      hleft.append_keyword hword hright⟩
  | and _ _ ihp ihq =>
    obtain ⟨hp, hpfits, hq, hqfits⟩ := hq
    obtain ⟨us, hus, hleft⟩ := ihp hp
    obtain ⟨vs, hvs, hright⟩ := ihq hq
    have hword : Spells "AND".toList [.and] := spells_keyword (by decide) fun _ => rfl
    exact ⟨_, .and (hus.loosen hpfits) (hvs.loosen hqfits), hleft.append_keyword hword hright⟩
  | implicitAnd _ _ ihp ihq =>
    obtain ⟨hp, hpfits, hq, hqfits⟩ := hq
    obtain ⟨us, hus, hleft⟩ := ihp hp
    obtain ⟨vs, hvs, hright⟩ := ihq hq
    exact ⟨_, .implicitAnd (hus.loosen hpfits) (hvs.loosen hqfits), hleft.append_blank hright⟩
  | not _ ih =>
    obtain ⟨us, hus, hoperand⟩ := ih hq.1
    have hword : Spells "NOT".toList [.not] := spells_keyword (by decide) fun _ => rfl
    exact ⟨_, .not (hus.loosen hq.2), hword.append_blank hoperand⟩
  | minus t =>
    have hterm := Derives.term t.written
    rw [leaf_written hq.1] at hterm
    exact ⟨_, .not (.operand hterm), spells_minus hq.1⟩
  | emptyGroup => exact ⟨_, .emptyGroup, spells_nil.parenthesized⟩
  | @group q _ h ih =>
    have hinner : q.IsCanonical := by
      cases q with
      | empty => cases h
      | tag | logical | negation | group => exact hq
    obtain ⟨us, hus, hspells⟩ := ih hinner
    exact ⟨_, .group (hus.loosen (Nat.zero_le _)), hspells.parenthesized⟩

lemma parse_of_spells {n : Nonterminal} {cs : List Char} {us : List Token} {q : Query}
    (hspells : Spells cs us) (hderives : Derives n us q) : parse (String.ofList cs) = .ok q := by
  have hcut := hspells [] [] trivial cutsInto_nil
  rw [List.append_nil, List.append_nil] at hcut
  obtain ⟨ts, hts, rfl⟩ := hcut 0 0
  have hne : ts ≠ [] := by
    rintro rfl
    obtain ⟨t, rest, hempty, -⟩ := hderives.exists_cons
    cases hempty
  have htokens : tokens (String.ofList cs).toList = .ok ts := by
    rw [String.toList_ofList]
    exact hts
  rw [parse_of_tokens htokens]
  exact (ofTokens_eq_ok_iff hne).mpr (hderives.loosen (Nat.zero_le _))

lemma parse_tag {t : Tag} (h : t.IsWritable) : parse (String.ofList t.written) = .ok (.tag t) := by
  have hterm := Derives.term t.written
  rw [leaf_written h] at hterm
  exact parse_of_spells (spells_written h) hterm

lemma parse_quoted {field value : String} (hfield : isFieldName field.toList = true)
    (hvalue : value ≠ "") (hquote : '"' ∉ value.toList) :
    parse (field ++ ":\"" ++ value ++ "\"") =
      .ok (.tag ⟨.named field false, .literal (.string value) true⟩) := by
  have hnonempty : value.toList ≠ [] := fun hnil => hvalue (String.toList_inj.mp hnil)
  have htext : String.ofList (Tag.written
      ⟨.named field false, .literal (.string value) true⟩) = field ++ ":\"" ++ value ++ "\"" := by
    apply String.toList_inj.mp
    simp [Tag.written, Operand.written, Operand.isQuoted, Operand.text]
  rw [← htext]
  exact parse_tag (.quoted hfield hnonempty hquote)

/-- A canonical tree can be written, and whichever way it is written, it is read back. -/
theorem parse_written {q : Query} (hq : q.IsCanonical) :
    Writes q q.written ∧ ∀ cs, Writes q cs → parse (String.ofList cs) = .ok q := by
  refine ⟨writes_written hq, fun cs hcs => ?_⟩
  obtain ⟨us, hderives, hspells⟩ := hcs.exists_derives hq
  exact parse_of_spells hspells hderives

/-- Keywords and parentheses in a quoted operand, an address, a lone minus sign, a negated phrase
and an empty group. -/
theorem parse_written_nested :
    let text := "rust OR -\"a b\" (label:\"x (OR) y\" AND NOT https://example.com) - ()"
    let q : Query :=
      .logical .or (.text "rust" false)
        (.logical .and
          (.logical .and
            (.logical .and
              (.negation .word (.text "a b" true))
              (.group (.logical .and
                (.tag ⟨.named "label" false, .literal (.string "x (OR) y") true⟩)
                (.negation .word (.text "https://example.com" false)))))
            (.text "-" false))
          (.group .empty))
    q.IsCanonical ∧ Writes q text.toList ∧ parse text = .ok q := by
  intro text q
  have hbare : ∀ s ∈ ["rust", "https://example.com", "-"], IsBareWord s.toList := by decide
  have hword : ∀ s ∈ ["rust", "https://example.com", "-"], IsCanonical (.text s false) :=
    fun s hs => .word (hbare s hs)
  have hphrase : IsCanonical (.text "a b" true) := .phrase (by decide)
  have hlabel : IsCanonical (.tag ⟨.named "label" false, .literal (.string "x (OR) y") true⟩) :=
    .quoted (by decide) (by decide) (by decide)
  have hgroup : IsCanonical (.group (.logical .and
      (.tag ⟨.named "label" false, .literal (.string "x (OR) y") true⟩)
      (.negation .word (.text "https://example.com" false)))) :=
    ⟨hlabel, by decide, ⟨hword _ (by simp), by decide⟩, by decide⟩
  have hq : q.IsCanonical := by
    refine ⟨hword _ (by simp), ⟨⟨⟨⟨hphrase, ?_⟩, ?_, hgroup, ?_⟩, ?_, hword _ (by simp), ?_⟩, ?_,
      trivial, ?_⟩, ?_⟩ <;> decide
  have hspelled : Writes q _ :=
    .or (.leaf _) (.implicitAnd (.implicitAnd (.implicitAnd (.minus _)
      (.group (.and (.leaf _) (.not (.leaf _))))) (.leaf _)) .emptyGroup)
  have hwrites : Writes q text.toList := (congrArg (Writes q) (by decide)).mp hspelled
  have hparse := (parse_written hq).2 text.toList hwrites
  rw [String.ofList_toList] at hparse
  exact ⟨hq, hwrites, hparse⟩

end ReadLater.Query
