import ReadLater.Proofs.TextPieces

/-!
# Written full-text queries

A query is written as groups between blanks, and a group as terms with `or` between each two. It
holds of the documents in which every group has a term that holds: a word or a phrase that occurs,
or a word after a minus sign that does not. A minus sign in front of a phrase is a piece of its own
without words, so that the phrase is asked for as if the sign were not there.
-/

namespace ReadLater.FullText

/-- A term as it is written. -/
inductive WrittenTerm
  | word (w : List Char)
  | excluded (w : List Char)
  | phrase (p : List Char)

namespace WrittenTerm

def text : WrittenTerm → List Char
  | .word w => w
  | .excluded w => '-' :: w
  | .phrase p => '"' :: (p ++ ['"'])

/-- A word is made of letters and digits and is not `or`; a phrase has a word and no quote. -/
def IsWritten : WrittenTerm → Prop
  | .word w => w ≠ [] ∧ (∀ c ∈ w, Text.isAlphanumeric c = true) ∧ w.map Char.toLower ≠ ['o', 'r']
  | .excluded w => w ≠ [] ∧ ∀ c ∈ w, Text.isAlphanumeric c = true
  | .phrase p => wordLists p ≠ [] ∧ '"' ∉ p

/-- What a term asks of the words of a document. -/
def Holds (document : List (List Char)) : WrittenTerm → Prop
  | .word w => wordLists w <:+: document
  | .excluded w => ¬wordLists w <:+: document
  | .phrase p => wordLists p <:+: document

instance (document : List (List Char)) : (t : WrittenTerm) → Decidable (t.Holds document)
  | .word w => inferInstanceAs (Decidable (wordLists w <:+: document))
  | .excluded w => inferInstanceAs (Decidable (¬wordLists w <:+: document))
  | .phrase p => inferInstanceAs (Decidable (wordLists p <:+: document))

def piece : WrittenTerm → Piece
  | .word w => ⟨w, false⟩
  | .excluded w => ⟨'-' :: w, false⟩
  | .phrase p => ⟨p, true⟩

def term : WrittenTerm → Term
  | .word w => ⟨wordLists w, false⟩
  | .excluded w => ⟨wordLists w, true⟩
  | .phrase p => ⟨wordLists p, false⟩

lemma holds_term (t : WrittenTerm) (document : List (List Char)) :
    t.term.holds document = true ↔ t.Holds document := by
  rw [Term.holds_iff]
  cases t <;> simp [term, Holds]

variable {t : WrittenTerm}

lemma IsWritten.pieces (h : t.IsWritten) {rest : List Char}
    (hrest : ∀ c ∈ rest.head?, Text.isBlank c = true) :
    pieces (t.text ++ rest) = t.piece :: pieces rest := by
  cases t with
  | word w =>
    obtain ⟨hne, hw, -⟩ := h
    exact pieces_plain (fun c hc => plain_of_isAlphanumeric (hw c hc)) hne hrest
  | excluded w =>
    obtain ⟨-, hw⟩ := h
    have hplain : ∀ c ∈ '-' :: w, c ≠ '"' ∧ Text.isBlank c = false :=
      List.forall_mem_cons.mpr ⟨by decide, fun c hc => plain_of_isAlphanumeric (hw c hc)⟩
    exact pieces_plain hplain (List.cons_ne_nil _ _) hrest
  | phrase p =>
    obtain ⟨-, hp⟩ := h
    have hquoted := pieces_quoted hp rest
    rwa [text, List.cons_append, List.append_assoc]

lemma IsWritten.isOr_piece (h : t.IsWritten) : t.piece.isOr = false := by
  cases t with
  | word w =>
    obtain ⟨-, -, hor⟩ := h
    simp [piece, Piece.isOr, hor]
  | excluded w => simp [piece, Piece.isOr]
  | phrase p => rfl

lemma IsWritten.term?_piece (h : t.IsWritten) : t.piece.term? = some t.term := by
  rw [Piece.term?_eq]
  cases t with
  | word w =>
    obtain ⟨hne, hw, -⟩ := h
    obtain ⟨c, rest, rfl⟩ := List.exists_cons_of_ne_nil hne
    have hminus : c ≠ '-' :=
      Text.ne_of_isAlphanumeric (hw c List.mem_cons_self) isAlphanumeric_minus
    simp [piece, term, wordLists_alphanumeric hw hne, hminus]
  | excluded w =>
    obtain ⟨hne, hw⟩ := h
    simp [piece, term, wordLists_cons isAlphanumeric_minus, wordLists_alphanumeric hw hne]
  | phrase p =>
    obtain ⟨hwords, -⟩ := h
    simp [piece, term, hwords]

end WrittenTerm

/-- `Alternatives ts cs`: the text `cs` writes the terms with `or` between each two. -/
inductive Alternatives : List WrittenTerm → List Char → Prop
  | one {t} : t.IsWritten → Alternatives [t] t.text
  | or {t o ts cs} : t.IsWritten → o.map Char.toLower = ['o', 'r'] → Alternatives ts cs →
      Alternatives (t :: ts) (t.text ++ ' ' :: (o ++ ' ' :: cs))

/-- `WrittenGroups groups cs`: the text `cs` writes the groups with blanks between each two. -/
inductive WrittenGroups : List (List WrittenTerm) → List Char → Prop
  | one {ts cs} : Alternatives ts cs → WrittenGroups [ts] cs
  | more {ts cs blanks groups ds} : Alternatives ts cs → blanks ≠ [] →
      (∀ c ∈ blanks, Text.isBlank c = true) → WrittenGroups groups ds →
      WrittenGroups (ts :: groups) (cs ++ (blanks ++ ds))

lemma pieces_or {o : List Char} (h : o.map Char.toLower = ['o', 'r']) (cs : List Char) :
    pieces (' ' :: (o ++ ' ' :: cs)) = ⟨o, false⟩ :: pieces cs := by
  have hblank : Text.isBlank ' ' = true := by decide
  have hne : o ≠ [] := by
    rintro rfl
    cases h
  have hplain : ∀ c ∈ o, c ≠ '"' ∧ Text.isBlank c = false := by
    intro c hc
    have hlower : c.toLower ∈ ['o', 'r'] := h ▸ List.mem_map_of_mem hc
    have hletter : ∀ d ∈ ['o', 'r'], Text.isBlank d = false := by simp; decide
    constructor
    · rintro rfl
      exact absurd hlower (by decide)
    · by_contra hc
      rw [Bool.not_eq_false] at hc
      rw [Text.toLower_of_isBlank hc] at hlower
      rw [hletter c hlower] at hc
      cases hc
  rw [pieces_blank hblank, pieces_plain hplain hne (by simp [hblank]), pieces_blank hblank]

/-- The terms of a group join the group that the first of them opens or joins. -/
lemma Alternatives.collectGroups {ts : List WrittenTerm} {cs : List Char} (h : Alternatives ts cs)
    {rest : List Char} (hrest : ∀ c ∈ rest.head?, Text.isBlank c = true)
    {groups before : List (List Term)} {joined : Bool} {part : List Term}
    (hadd : ∀ t, addTerm groups joined t = before ++ [part ++ [t]]) :
    collectGroups groups joined (pieces (cs ++ rest)) =
      FullText.collectGroups (before ++ [part ++ ts.map WrittenTerm.term]) false (pieces rest) := by
  induction h generalizing groups joined part with
  | @one t ht =>
    rw [ht.pieces hrest, FullText.collectGroups, ht.isOr_piece, ht.term?_piece]
    simp [hadd]
  | @or t o ts cs ht ho _ ih =>
    have hnext : ∀ u, addTerm (before ++ [part ++ [t.term]]) true u =
        before ++ [part ++ [t.term] ++ [u]] := addTerm_joined before (part ++ [t.term])
    have hor : Piece.isOr ⟨o, false⟩ = true := by simp [Piece.isOr, ho]
    have htext : t.text ++ ' ' :: (o ++ ' ' :: cs) ++ rest =
        t.text ++ ' ' :: (o ++ ' ' :: (cs ++ rest)) := by simp
    have hblank : Text.isBlank ' ' = true := by decide
    rw [htext, ht.pieces (by simp [hblank]), pieces_or ho, FullText.collectGroups, ht.isOr_piece,
      ht.term?_piece]
    simp only [Bool.false_eq_true, if_false, hadd, FullText.collectGroups, hor, if_true]
    have hopened : (!(before ++ [part ++ [t.term]]).isEmpty) = true := by simp
    rw [hopened, ih hnext]
    simp

lemma WrittenGroups.collectGroups {groups : List (List WrittenTerm)} {cs : List Char}
    (h : WrittenGroups groups cs) (before : List (List Term)) :
    collectGroups before false (pieces cs) =
      before ++ groups.map fun ts => ts.map WrittenTerm.term := by
  have hopen : ∀ (before : List (List Term)) (t : Term),
      addTerm before false t = before ++ [[] ++ [t]] := fun _ _ => rfl
  induction h generalizing before with
  | one hts =>
    have hend : ∀ c ∈ ([] : List Char).head?, Text.isBlank c = true := by simp
    have hgroup := hts.collectGroups hend (hopen before)
    rw [List.append_nil] at hgroup
    rw [hgroup]
    simp [FullText.collectGroups]
  | @more ts cs blanks groups ds hts hne hblanks _ ih =>
    have hrest : ∀ c ∈ (blanks ++ ds).head?, Text.isBlank c = true := by
      intro c hc
      rw [List.head?_append_of_ne_nil _ hne] at hc
      exact hblanks c (List.mem_of_mem_head? hc)
    rw [hts.collectGroups hrest (hopen before), pieces_blanks hblanks, ih]
    simp

lemma WrittenGroups.ne_nil {groups : List (List WrittenTerm)} {cs : List Char}
    (h : WrittenGroups groups cs) : groups ≠ [] := by
  cases h <;> exact List.cons_ne_nil _ _

lemma WrittenGroups.holds_iff {groups : List (List WrittenTerm)} {text : String}
    (h : WrittenGroups groups text.toList) (document : String) :
    (Query.parse text).holds document = true ↔
      ∀ ts ∈ groups, ∃ t ∈ ts, t.Holds (wordLists document.toList) := by
  have hparse : (Query.parse text).groups = groups.map fun ts => ts.map WrittenTerm.term := by
    rw [Query.parse, h.collectGroups, List.nil_append]
  rw [Query.holds_iff, hparse]
  simp [h.ne_nil, WrittenTerm.holds_term]

namespace Query

/-- Every group of a query has a term and every term has a word; and a written query holds of a
document just if in every group some word or phrase occurs among its words, or some word after a
minus sign does not. -/
theorem parse_denotes_groups :
    (∀ text : String, ∀ group ∈ (parse text).groups,
      group ≠ [] ∧ ∀ t ∈ group, t.words ≠ []) ∧
    ∀ (groups : List (List WrittenTerm)) (text : String), WrittenGroups groups text.toList →
      ∀ document : String, (parse text).holds document = true ↔
        ∀ ts ∈ groups, ∃ t ∈ ts, t.Holds (wordLists document.toList) := by
  constructor
  · intro text group hgroup
    obtain ⟨hne, hterms⟩ := collectGroups_origin (pieces text.toList) false group hgroup
    exact ⟨hne, fun t ht => (hterms t ht).1⟩
  · intro groups text htext document
    exact htext.holds_iff document

/-- `-Decaf OR "Cold, brew"  teas oR Coffee` of a document with the words of the phrase apart, and
of one with the phrase. -/
theorem parse_denotes_groups_of_alternatives :
    let text := "-Decaf OR \"Cold, brew\"\u3000\tteas oR Coffee"
    (∀ group ∈ (parse text).groups, group ≠ [] ∧ ∀ t ∈ group, t.words ≠ []) ∧
      (parse text).holds "Decaf coffees, brewed cold" = false ∧
      (parse text).holds "Decaf coffees, cold brews" = true := by
  intro text
  obtain ⟨hwords, hholds⟩ := parse_denotes_groups
  have hletters : ∀ w ∈ ["Decaf".toList, "teas".toList, "Coffee".toList],
      ∀ c ∈ w, Text.isAlphanumeric c = true := by
    have hall : (["Decaf".toList, "teas".toList, "Coffee".toList].all fun w =>
        w.all Text.isAlphanumeric) = true := by decide +kernel
    simpa only [List.all_eq_true] using hall
  have hexcluded : (WrittenTerm.excluded "Decaf".toList).IsWritten :=
    ⟨by decide, hletters _ (by simp)⟩
  have hphrase : (WrittenTerm.phrase "Cold, brew".toList).IsWritten :=
    ⟨by decide +kernel, by decide⟩
  have htea : (WrittenTerm.word "teas".toList).IsWritten :=
    ⟨by decide, hletters _ (by simp), by decide⟩
  have hcoffee : (WrittenTerm.word "Coffee".toList).IsWritten :=
    ⟨by decide, hletters _ (by simp), by decide⟩
  have hfirst := Alternatives.or (o := "OR".toList) hexcluded rfl (.one hphrase)
  have hsecond := Alternatives.or (o := "oR".toList) htea rfl (.one hcoffee)
  have hblanks : ∀ c ∈ ['\u3000', '\t'], Text.isBlank c = true := by simp; decide
  have hwritten : WrittenGroups [[.excluded "Decaf".toList, .phrase "Cold, brew".toList],
      [.word "teas".toList, .word "Coffee".toList]] text.toList := by
    simpa [text, WrittenTerm.text] using
      WrittenGroups.more hfirst (List.cons_ne_nil _ _) hblanks (.one hsecond)
  refine ⟨hwords text, ?_, ?_⟩
  · rw [Bool.eq_false_iff, ne_eq, hholds _ text hwritten]
    decide +kernel
  · rw [hholds _ text hwritten]
    decide +kernel

/-! ## Phrases after a minus sign -/

section MinusSign

variable {p before : String} (hp : '"' ∉ p.toList) (hbefore : EndsPiece before.toList)
  (after : String)
include hp hbefore

lemma parse_phrase : parse (before ++ "\"" ++ p ++ "\"" ++ after) =
    ⟨collectGroups [] false
      (pieces before.toList ++ ⟨p.toList, true⟩ :: pieces after.toList)⟩ := by
  have htext : (before ++ "\"" ++ p ++ "\"" ++ after).toList =
      before.toList ++ '"' :: (p.toList ++ '"' :: after.toList) := by simp
  rw [parse, htext, hbefore.pieces_append, pieces_quoted hp]

lemma parse_minus_phrase : parse (before ++ "-\"" ++ p ++ "\"" ++ after) =
    parse (before ++ "\"" ++ p ++ "\"" ++ after) := by
  have htext : (before ++ "-\"" ++ p ++ "\"" ++ after).toList =
      before.toList ++ '-' :: '"' :: (p.toList ++ '"' :: after.toList) := by simp
  have hpieces : pieces ('-' :: '"' :: (p.toList ++ '"' :: after.toList)) =
      ⟨['-'], false⟩ :: ⟨p.toList, true⟩ :: pieces after.toList := by
    have hquoted := piecesFrom_quoted hp [] after.toList
    simpa [pieces, piecesFrom, Text.isBlank] using hquoted
  -- the minus sign is a piece of its own and has no words
  have hnone : Piece.term? ⟨['-'], false⟩ = none := rfl
  rw [parse_phrase hp hbefore, parse, htext, hbefore.pieces_append, hpieces,
    collectGroups_drop rfl hnone]

/-- Where no `or` offers another term, every match has the phrase. -/
lemma infix_of_holds_phrase (hwords : wordLists p.toList ≠ [])
    (hor : ∀ q ∈ pieces before.toList ++ pieces after.toList, q.isOr = false) {document : String}
    (h : (parse (before ++ "\"" ++ p ++ "\"" ++ after)).holds document = true) :
    wordLists p.toList <:+: wordLists document.toList := by
  have hterm : Piece.term? ⟨p.toList, true⟩ = some ⟨wordLists p.toList, false⟩ := by
    simp [Piece.term?_eq, hwords]
  have hor' : ∀ q ∈ pieces before.toList ++ ⟨p.toList, true⟩ :: pieces after.toList,
      q.isOr = false := by
    intro q hq
    rw [List.mem_append, List.mem_cons] at hq
    rcases hq with hq | rfl | hq
    · exact hor q (List.mem_append_left _ hq)
    · rfl
    · exact hor q (List.mem_append_right _ hq)
  rw [parse_phrase hp hbefore, Query.holds_iff, collectGroups_of_forall_not_or hor'] at h
  obtain ⟨t, ht, hholds⟩ := h.2 [⟨wordLists p.toList, false⟩] (by simp [hterm])
  rw [List.mem_singleton.mp ht, Term.holds_iff] at hholds
  exact hholds.mpr rfl

end MinusSign

/-- A minus sign in front of a quoted phrase does nothing: on its own the phrase is asked for, and
in a larger query, behind a text that ends a piece, it is read as it is without the sign. So a query
without `or` holds only of documents that have the phrase. -/
theorem phrase_asked_for_after_minus (p : String) (hp : '"' ∉ p.toList)
    (hwords : wordLists p.toList ≠ []) :
    (∀ document : String, (parse ("-\"" ++ p ++ "\"")).holds document = true ↔
      wordLists p.toList <:+: wordLists document.toList) ∧
    ∀ before after : String, EndsPiece before.toList →
      parse (before ++ "-\"" ++ p ++ "\"" ++ after) = parse (before ++ "\"" ++ p ++ "\"" ++ after) ∧
      ((∀ q ∈ pieces before.toList ++ pieces after.toList, q.isOr = false) →
        ∀ document : String, (parse (before ++ "-\"" ++ p ++ "\"" ++ after)).holds document = true →
          wordLists p.toList <:+: wordLists document.toList) := by
  have hstart : EndsPiece "".toList := ⟨rfl, by simp⟩
  constructor
  · intro document
    have hminus := parse_minus_phrase hp hstart ""
    have hphrase := parse_phrase hp hstart ""
    have hgroups : collectGroups [] false [⟨p.toList, true⟩] =
        [[⟨wordLists p.toList, false⟩]] := by
      simp [collectGroups, Piece.isOr, Piece.term?_eq, hwords]
    simp only [String.empty_append, String.append_empty] at hminus hphrase
    rw [hminus, hphrase, Query.holds_iff]
    simp [hgroups, Term.holds_iff]
  · intro before after hbefore
    have hminus := parse_minus_phrase hp hbefore after
    refine ⟨hminus, fun hor document h => ?_⟩
    rw [hminus] at h
    exact infix_of_holds_phrase hp hbefore after hwords hor h

/-- `-"Cold brew"`, and the phrase between `tea` and `-water`. -/
theorem phrase_asked_for_after_minus_in_query :
    (parse ("-\"" ++ "Cold brew" ++ "\"")).holds "A cold brew" = true ∧
    (parse ("-\"" ++ "Cold brew" ++ "\"")).holds "Green tea" = false ∧
    (parse ("Tea " ++ "-\"" ++ "Cold brew" ++ "\"" ++ " -water")).holds "Green tea" = false := by
  have hp : '"' ∉ "Cold brew".toList := by decide
  obtain ⟨halone, hlarger⟩ := phrase_asked_for_after_minus "Cold brew" hp (by decide +kernel)
  have hbefore : EndsPiece "Tea ".toList := ⟨by decide, by simp; decide⟩
  obtain ⟨-, hrequired⟩ := hlarger "Tea " " -water" hbefore
  refine ⟨(halone _).mpr (by decide +kernel), ?_, ?_⟩
  · rw [Bool.eq_false_iff, ne_eq, halone]
    decide +kernel
  · rw [Bool.eq_false_iff]
    intro h
    have hphrase := hrequired (by decide +kernel) "Green tea" h
    exact absurd hphrase (by decide +kernel)

/-- A phrase after a minus sign is found where it stands and not found where it does not. -/
theorem minus_requires_phrase :
    wordLists "cold brew".toList <:+: wordLists "How to make cold brew at home".toList ∧
    (parse "-\"cold brew\"").holds "How to make cold brew at home" = true ∧
    ¬wordLists "cold brew".toList <:+: wordLists "Green tea".toList ∧
    (parse "-\"cold brew\"").holds "Green tea" = false := by
  decide +kernel

end Query

end ReadLater.FullText
