import ReadLater.Proofs.LowerCase
import ReadLater.Proofs.Meaning
import ReadLater.Proofs.Requests
import ReadLater.Proofs.TextPieces

/-!
# Quoted free text

The value of a quoted free-text tag is put in quotes again and read as a full-text query. It asks
for its words as one contiguous run of the words of title and content, unless a quote within the
value ends the phrase early: then the value must have all its words in one piece, and that piece
must be neither `or` nor excluded.
-/

namespace ReadLater

namespace FullText

/-- Put in quotes, the value stays whole: each piece with words has all words and asks for them. -/
def StaysWhole (value : List Char) : Prop :=
  ∀ p ∈ pieces ('"' :: (value ++ ['"'])), wordLists p.text ≠ [] →
    p.isOr = false ∧ p.term? = some ⟨wordLists value, false⟩

instance (value : List Char) : Decidable (StaysWhole value) :=
  inferInstanceAs (Decidable (∀ p ∈ pieces ('"' :: (value ++ ['"'])), _))

/-- The words of the value occur as one run. -/
def HasPhrase (value : List Char) (document : List (List Char)) : Prop :=
  wordLists value ≠ [] ∧ wordLists value <:+: document

instance (value : List Char) (document : List (List Char)) : Decidable (HasPhrase value document) :=
  inferInstanceAs (Decidable (_ ∧ _))

lemma staysWhole_of_notMem {value : List Char} (h : '"' ∉ value) : StaysWhole value := by
  have hpieces : pieces ('"' :: (value ++ ['"'])) = [⟨value, true⟩] := pieces_quoted h []
  intro p hp hwords
  rw [hpieces, List.mem_singleton] at hp
  subst hp
  refine ⟨rfl, ?_⟩
  rw [Piece.term?_eq, if_neg hwords]
  rfl

lemma wordLists_quoted (value : List Char) :
    (pieces ('"' :: (value ++ ['"']))).flatMap (fun p => wordLists p.text) = wordLists value := by
  rw [wordLists_pieces, wordLists_cons isAlphanumeric_quote, wordLists_append isAlphanumeric_quote,
    wordLists_nil, List.append_nil]

lemma StaysWhole.holds_iff {value : List Char} (h : StaysWhole value) {text : String}
    (htext : text.toList = '"' :: (value ++ ['"'])) (document : String) :
    (Query.parse text).holds document = true ↔ HasPhrase value (wordLists document.toList) := by
  have hterms : ∀ group ∈ (Query.parse text).groups, group ≠ [] ∧
      ∀ t ∈ group, t = ⟨wordLists value, false⟩ ∧ wordLists value ≠ [] := by
    rw [Query.parse, htext]
    intro group hgroup
    obtain ⟨hne, hterms⟩ := collectGroups_origin _ _ group hgroup
    refine ⟨hne, fun t ht => ?_⟩
    obtain ⟨hwords, p, hp, -, hterm⟩ := hterms t ht
    obtain ⟨hpiece, -⟩ := Piece.term?_eq_some hterm
    obtain ⟨-, hwhole⟩ := h p hp (hpiece ▸ hwords)
    cases hterm.symm.trans hwhole
    exact ⟨rfl, hwords⟩
  have hgroups : wordLists value ≠ [] → (Query.parse text).groups ≠ [] := by
    intro hwords
    rw [← wordLists_quoted, ne_eq, List.flatMap_eq_nil_iff, not_forall] at hwords
    obtain ⟨p, hwords⟩ := hwords
    rw [Classical.not_imp] at hwords
    obtain ⟨hp, hwords⟩ := hwords
    obtain ⟨hor, hterm⟩ := h p hp hwords
    rw [Query.parse, htext]
    exact collectGroups_ne_nil_of_mem hp hor hterm [] false
  rw [Query.holds_iff, HasPhrase]
  constructor
  · rintro ⟨hne, hall⟩
    obtain ⟨group, hgroup⟩ := List.exists_mem_of_ne_nil _ hne
    obtain ⟨t, ht, hholds⟩ := hall group hgroup
    obtain ⟨rfl, hwords⟩ := (hterms group hgroup).2 t ht
    exact ⟨hwords, (Term.holds_iff.mp hholds).mpr rfl⟩
  · rintro ⟨hwords, hinfix⟩
    refine ⟨hgroups hwords, fun group hgroup => ?_⟩
    obtain ⟨hne, hall⟩ := hterms group hgroup
    obtain ⟨t, ht⟩ := List.exists_mem_of_ne_nil _ hne
    refine ⟨t, ht, Term.holds_iff.mpr ?_⟩
    obtain ⟨rfl, -⟩ := hall t ht
    exact iff_of_true hinfix rfl

/-- A word longer than all of the words together. -/
def longWord (ws : List (List Char)) : List Char :=
  List.replicate (ws.flatten.length + 1) 'x'

lemma wordLists_longWord (ws : List (List Char)) :
    wordLists (longWord ws) = [longWord ws] := by
  have hletter : ∀ c ∈ longWord ws, c = 'x' := fun c hc => List.eq_of_mem_replicate hc
  have hx : Text.isAlphanumeric 'x' = true := by decide +kernel
  have hsettled : Text.IsSettled 'x' := by decide +kernel
  have hlower : Text.lowerChars (longWord ws) = longWord ws :=
    Text.lowerAfter_of_settled (fun c hc => hletter c hc ▸ hsettled) []
  have hsingular : singular (longWord ws) = longWord ws := by
    have hlast : (longWord ws).getLast? ≠ some 's' := by
      intro h
      exact absurd (hletter 's' (List.mem_of_getLast? h)) (by decide)
    simp [singular, hlast]
  rw [wordLists_alphanumeric (fun c hc => hletter c hc ▸ hx) (by simp [longWord]), hlower,
    hsingular]

lemma longWord_notMem (ws : List (List Char)) : longWord ws ∉ ws := by
  intro h
  have hlength := (List.sublist_flatten_of_mem h).length_le
  rw [longWord, List.length_replicate] at hlength
  omega

/-- The texts of the pieces with a word behind each of them. -/
def spaced (word : List Char) (ps : List Piece) : List Char :=
  ps.flatMap fun p => p.text ++ ' ' :: (word ++ [' '])

lemma wordLists_spaced {ws : List (List Char)} (ps : List Piece) :
    wordLists (spaced (longWord ws) ps) =
      ps.flatMap fun p => wordLists p.text ++ [longWord ws] := by
  have hblank : Text.isAlphanumeric ' ' = false := by decide +kernel
  induction ps with
  | nil => rfl
  | cons p ps ih =>
    have htext : spaced (longWord ws) (p :: ps) =
        p.text ++ ' ' :: (longWord ws ++ ' ' :: spaced (longWord ws) ps) := by simp [spaced]
    rw [htext, wordLists_append hblank, wordLists_append hblank, wordLists_longWord, ih]
    simp

lemma infix_append_cons {α : Type} {run left right : List α} {a : α} (ha : a ∉ run)
    (h : run <:+: left ++ a :: right) : run <:+: left ∨ run <:+: right := by
  rcases List.infix_append_iff.mp h with hleft | hright | ⟨before, after, rfl, hbefore, hafter⟩
  · exact .inl hleft
  · rcases List.infix_cons_iff.mp hright with hstart | hright
    · rcases List.prefix_cons_iff.mp hstart with rfl | ⟨rest, rfl, -⟩
      · exact .inl (List.nil_infix)
      · exact absurd List.mem_cons_self ha
    · exact .inr hright
  · rcases List.prefix_cons_iff.mp hafter with rfl | ⟨rest, rfl, -⟩
    · rw [List.append_nil]
      exact .inl hbefore.isInfix
    · exact absurd (List.mem_append_right before List.mem_cons_self) ha

lemma exists_infix_of_infix_spaced {run : List (List Char)} {word : List Char} (hword : word ∉ run)
    (hne : run ≠ []) {ps : List Piece}
    (h : run <:+: ps.flatMap fun p => wordLists p.text ++ [word]) :
    ∃ p ∈ ps, run <:+: wordLists p.text := by
  induction ps with
  | nil => exact absurd (List.infix_nil.mp h) hne
  | cons p ps ih =>
    rw [List.flatMap_cons, List.append_assoc, List.singleton_append] at h
    rcases infix_append_cons hword h with hhere | hrest
    · exact ⟨p, List.mem_cons_self, hhere⟩
    · obtain ⟨q, hq, hrun⟩ := ih hrest
      exact ⟨q, List.mem_cons_of_mem p hq, hrun⟩

lemma infix_flatMap_of_mem {α β : Type} (f : α → List β) {xs : List α} {x : α} (hx : x ∈ xs) :
    f x <:+: xs.flatMap f := by
  obtain ⟨before, after, rfl⟩ := List.append_of_mem hx
  exact ⟨before.flatMap f, after.flatMap f, by simp⟩

lemma eq_of_flatMap_eq {α β : Type} {f : α → List β} {xs : List α} {x y : α} (hx : x ∈ xs)
    (h : xs.flatMap f = f x) (hy : y ∈ xs) (hne : f y ≠ []) : y = x := by
  obtain ⟨before, after, rfl⟩ := List.append_of_mem hx
  rw [List.flatMap_append, List.flatMap_cons] at h
  have hlength := congrArg List.length h
  simp only [List.length_append] at hlength
  have hbefore : before.flatMap f = [] := List.length_eq_zero_iff.mp (by omega)
  have hafter : after.flatMap f = [] := List.length_eq_zero_iff.mp (by omega)
  rw [List.flatMap_eq_nil_iff] at hbefore hafter
  rw [List.mem_append, List.mem_cons] at hy
  rcases hy with hy | rfl | hy
  · exact absurd (hbefore y hy) hne
  · rfl
  · exact absurd (hafter y hy) hne

lemma wordLists_infix_of_mem {value : List Char} {p : Piece}
    (hp : p ∈ pieces ('"' :: (value ++ ['"']))) : wordLists p.text <:+: wordLists value := by
  rw [← wordLists_quoted value]
  exact infix_flatMap_of_mem (fun p => wordLists p.text) hp

section Law

variable {value : List Char} {text : String} (htext : text.toList = '"' :: (value ++ ['"']))
include htext

/-- A group that holds of the value itself asks for the words of one of its pieces. -/
lemma exists_asking_piece
    (h : (Query.parse text).holds (String.ofList value) = true) {group : List Term}
    (hgroup : group ∈ (Query.parse text).groups) :
    ∃ p ∈ pieces ('"' :: (value ++ ['"'])), p.isOr = false ∧ wordLists p.text ≠ [] ∧
      p.term? = some ⟨wordLists p.text, false⟩ ∧ ⟨wordLists p.text, false⟩ ∈ group := by
  obtain ⟨-, hall⟩ := Query.holds_iff.mp h
  obtain ⟨t, ht, hholds⟩ := hall group hgroup
  rw [Query.parse, htext] at hgroup
  obtain ⟨-, hterms⟩ := collectGroups_origin _ _ group hgroup
  obtain ⟨hwords, p, hp, hor, hterm⟩ := hterms t ht
  obtain ⟨hpiece, -⟩ := Piece.term?_eq_some hterm
  have hoccurs : t.words <:+: wordLists value := by
    rw [hpiece]
    exact wordLists_infix_of_mem hp
  rw [Term.holds_iff, String.toList_ofList] at hholds
  have hself : t = ⟨wordLists p.text, false⟩ := by
    obtain ⟨words, negated⟩ := t
    exact congrArg₂ Term.mk hpiece (hholds.mp hoccurs)
  subst hself
  exact ⟨p, hp, hor, hwords, hterm, ht⟩

/-- What holds of the value holds of its pieces with a word between them. -/
lemma holds_spaced (h : (Query.parse text).holds (String.ofList value) = true)
    (ws : List (List Char)) : (Query.parse text).holds
      (String.ofList (spaced (longWord ws) (pieces ('"' :: (value ++ ['"']))))) = true := by
  refine Query.holds_iff.mpr ⟨(Query.holds_iff.mp h).1, fun group hgroup => ?_⟩
  obtain ⟨p, hp, -, -, -, hmem⟩ := exists_asking_piece htext h hgroup
  refine ⟨_, hmem, Term.holds_iff.mpr (iff_of_true ?_ rfl)⟩
  rw [String.toList_ofList, wordLists_spaced]
  have hpart : wordLists p.text <:+: wordLists p.text ++ [longWord ws] :=
    (List.prefix_append _ _).isInfix
  exact hpart.trans (infix_flatMap_of_mem (fun p => wordLists p.text ++ [longWord ws]) hp)

/-- Only a value that stays whole asks for its phrase. Of the value itself the query holds, and so
it holds of the pieces spaced out; there the phrase can stand in a single piece only. -/
lemma staysWhole_of_forall (h : ∀ document : String, (Query.parse text).holds document = true ↔
    HasPhrase value (wordLists document.toList)) : StaysWhole value := by
  intro p hp hwords
  have hne : wordLists value ≠ [] := by
    rw [← wordLists_quoted, ne_eq, List.flatMap_eq_nil_iff]
    exact fun hnone => hwords (hnone p hp)
  have hself : (Query.parse text).holds (String.ofList value) = true := by
    refine (h _).mpr ⟨hne, ?_⟩
    rw [String.toList_ofList]
  obtain ⟨-, hrun⟩ := (h _).mp (holds_spaced htext hself (wordLists value))
  rw [String.toList_ofList, wordLists_spaced] at hrun
  obtain ⟨q, hq, hrun⟩ := exists_infix_of_infix_spaced (longWord_notMem _) hne hrun
  have hall : (pieces ('"' :: (value ++ ['"']))).flatMap (fun p => wordLists p.text) =
      wordLists q.text := by
    rw [wordLists_quoted]
    exact hrun.eq_of_length_le (wordLists_infix_of_mem hq).length_le
  have hpq : p = q := eq_of_flatMap_eq hq hall hp hwords
  -- the query has a group, and only this piece can have made it
  obtain ⟨group, hgroup⟩ := List.exists_mem_of_ne_nil _ (Query.holds_iff.mp hself).1
  obtain ⟨r, hr, hor, hrwords, hterm, -⟩ := exists_asking_piece htext hself hgroup
  have hrq : r = q := eq_of_flatMap_eq hq hall hr hrwords
  subst hpq hrq
  rw [← hall, wordLists_quoted] at hterm
  exact ⟨hor, hterm⟩

end Law

end FullText

/-! ## Tags -/

/-- The words of the title followed by those of the content. -/
def Item.words (i : Item) : List (List Char) :=
  FullText.wordLists i.title.toList ++ FullText.wordLists i.content.toList

lemma Item.wordLists_document (i : Item) :
    FullText.wordLists (i.title ++ " " ++ i.content).toList = i.words :=
  FullText.wordLists_append_blank i.title i.content

namespace Query.Tag

variable {t : Query.Tag}

lemma exists_compile_quoted (hfield : t.field = .freeText) (hquoted : t.operand.isQuoted = true)
    (hvalue : Text.trim t.operand.text ≠ "") (options : CompileOptions) :
    ∃ c, (Query.tag t).compile options = .ok c ∧ ∀ (clock : Time.Instant) (i : Item),
      c.filter.accepts clock i = .ok ((FullText.Query.parse
        ("\"" ++ Text.trim t.operand.text ++ "\"")).holds (i.title ++ " " ++ i.content)) := by
  have hcontribution : t.contribution options 0 =
      .ok (TagOperand.freeText ⟨"implicit", Text.trim t.operand.text, true⟩ 0) := by
    simp [contribution, hfield, hvalue, hquoted]
  obtain ⟨c, hcompile, hpredicate, hparameters⟩ := compile_tag hcontribution
  refine ⟨c, hcompile, fun clock i => ?_⟩
  have htruth : (Predicate.test (.textMatch .search (numbered "implicit" 0))).truth c.parameters
      clock i = .ok (some ((FullText.Query.parse
        ("\"" ++ Text.trim t.operand.text ++ "\"")).holds (i.title ++ " " ++ i.content))) := by
    rw [hparameters]
    rfl
  rw [Filter.accepts_of_truth hpredicate htruth]
  cases (FullText.Query.parse _).holds (i.title ++ " " ++ i.content) <;> rfl

/-- A quoted free-text tag compiles. It finds, in every library, just the items in which the words
of its value stand as one run, if and only if the value stays whole; every value without a quote
stays whole. -/
theorem quoted_asks_for_phrase (hfield : t.field = .freeText)
    (hquoted : t.operand.isQuoted = true) (hvalue : Text.trim t.operand.text ≠ "")
    (options : CompileOptions) :
    ∃ c, (Query.tag t).compile options = .ok c ∧
      ((∀ (clock : Time.Instant) (i : Item), c.filter.accepts clock i =
          .ok (decide (FullText.HasPhrase (Text.trim t.operand.text).toList i.words))) ↔
        FullText.StaysWhole (Text.trim t.operand.text).toList) ∧
      ('"' ∉ (Text.trim t.operand.text).toList →
        FullText.StaysWhole (Text.trim t.operand.text).toList) := by
  obtain ⟨c, hcompile, haccepts⟩ := exists_compile_quoted hfield hquoted hvalue options
  have htext : ("\"" ++ Text.trim t.operand.text ++ "\"").toList =
      '"' :: ((Text.trim t.operand.text).toList ++ ['"']) := by simp
  refine ⟨c, hcompile, ⟨fun hlaw => ?_, fun hwhole clock i => ?_⟩, FullText.staysWhole_of_notMem⟩
  · refine FullText.staysWhole_of_forall htext fun document => ?_
    let i := Item.saved "" "" document .epoch
    have hwords : FullText.wordLists (document ++ " " ++ "").toList =
        FullText.wordLists document.toList := by
      rw [FullText.wordLists_append_blank]
      exact List.append_nil _
    have hfound := hlaw .epoch i
    rw [haccepts, Except.ok.injEq, ← i.wordLists_document] at hfound
    have hiff : (FullText.Query.parse ("\"" ++ Text.trim t.operand.text ++ "\"")).holds
        (document ++ " " ++ "") = true ↔
        FullText.HasPhrase (Text.trim t.operand.text).toList
          (FullText.wordLists (document ++ " " ++ "").toList) := by
      rw [← decide_eq_true_iff (p := FullText.HasPhrase _ _)]
      exact Bool.eq_iff_iff.mp hfound
    rwa [FullText.Query.holds_iff, hwords, ← FullText.Query.holds_iff] at hiff
  · rw [haccepts, Except.ok.injEq, Bool.eq_iff_iff, decide_eq_true_iff, hwhole.holds_iff htext,
      i.wordLists_document]

/-- A value with a quote that stays whole, and a phrase that begins in the title and ends in the
content. -/
theorem quoted_asks_for_phrase_across_content :
    let options : CompileOptions := { now := ⟨.epoch, 0⟩ }
    let t : Query.Tag := ⟨.freeText, .literal (.string " Cold, brew\" !") true⟩
    let i := { Item.saved "a" "u1" "Nice and cold" .epoch with content := "Brews at home" }
    ∃ c, (Query.tag t).compile options = .ok c ∧ c.filter.accepts .epoch i = .ok true ∧
      c.filter.accepts .epoch { i with content := "A brew" } = .ok false := by
  intro options t i
  have hvalue : Text.trim t.operand.text = "Cold, brew\" !" := by decide +kernel
  have hnonblank : Text.trim t.operand.text ≠ "" := by
    rw [hvalue]
    decide
  have htrimmed : (Text.trim t.operand.text).toList = "Cold, brew\" !".toList :=
    congrArg String.toList hvalue
  obtain ⟨c, hcompile, hiff, -⟩ := quoted_asks_for_phrase rfl rfl hnonblank options
  rw [htrimmed] at hiff
  have hlaw := hiff.mpr (by decide +kernel)
  have hfound : FullText.HasPhrase "Cold, brew\" !".toList i.words := by decide +kernel
  have hlost : ¬FullText.HasPhrase "Cold, brew\" !".toList
      { i with content := "A brew" : Item }.words := by decide +kernel
  refine ⟨c, hcompile, ?_, ?_⟩
  · rw [hlaw, decide_eq_true hfound]
  · rw [hlaw, decide_eq_false hlost]

/-- The quotes within the value end the phrase and begin another one: an item with the words in the
other order is found, by the tag and by the text that is read as the tag. -/
theorem inner_quotes_split_phrase :
    let options : CompileOptions := { now := ⟨.epoch, 0⟩ }
    let t : Query.Tag := ⟨.freeText, .literal (.string "cold\"\"brew") true⟩
    let i := Item.saved "a" "u1" "Brew it cold" .epoch
    ¬FullText.HasPhrase (Text.trim t.operand.text).toList i.words ∧
    (∃ c, (Query.tag t).compile options = .ok c ∧ c.filter.accepts .epoch i = .ok true) ∧
    ∃ c, Query.compileText options "\"cold\"\"brew\"" = .ok c ∧
      c.filter.accepts .epoch i = .ok true := by
  intro options t i
  have htag : ((Query.tag t).compile options).toOption.map
      (fun c => c.filter.accepts .epoch i) = some (.ok true) := by decide +kernel
  have htext : (Query.compileText options "\"cold\"\"brew\"").toOption.map
      (fun c => c.filter.accepts .epoch i) = some (.ok true) := by decide +kernel
  exact ⟨by decide +kernel, Except.exists_of_toOption htag, Except.exists_of_toOption htext⟩

end Query.Tag

end ReadLater
