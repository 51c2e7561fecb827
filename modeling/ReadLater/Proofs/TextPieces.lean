import Mathlib.Data.List.Infix
import ReadLater.FullText.Query

/-!
# Pieces and terms of a full-text query

A query text falls into pieces at its blanks and quotes, and no word is lost: the words of the text
are those of its pieces. A piece with words is a term unless it is `or`, and a term opens a group or
joins the last one. What each term keeps of the groups, all pieces keep.
-/

namespace ReadLater

namespace Text

def blankCodes : List Nat :=
  [9, 10, 11, 12, 13, 32, 0x85, 0xA0, 0x1680, 0x2000, 0x2001, 0x2002, 0x2003, 0x2004, 0x2005,
    0x2006, 0x2007, 0x2008, 0x2009, 0x200A, 0x2028, 0x2029, 0x202F, 0x205F, 0x3000]

lemma mem_blankCodes {c : Char} (h : isBlank c = true) : c.toNat ∈ blankCodes := by
  simp [isBlank] at h
  simp [blankCodes]
  omega

lemma isAlphanumeric_of_isBlank {c : Char} (h : isBlank c = true) : isAlphanumeric c = false := by
  have hcodes : ∀ code ∈ blankCodes, inRanges code alphanumericRanges = false := by decide +kernel
  exact hcodes _ (mem_blankCodes h)

lemma isBlank_of_isAlphanumeric {c : Char} (h : isAlphanumeric c = true) : isBlank c = false := by
  by_contra hblank
  rw [Bool.not_eq_false] at hblank
  rw [isAlphanumeric_of_isBlank hblank] at h
  cases h

lemma toLower_of_isBlank {c : Char} (h : isBlank c = true) : c.toLower = c := by
  have hcodes : ∀ code ∈ blankCodes, (Char.ofNat code).toLower = Char.ofNat code := by decide
  have hc := hcodes _ (mem_blankCodes h)
  rwa [Char.ofNat_toNat] at hc

lemma ne_of_isAlphanumeric {c d : Char} (h : isAlphanumeric c = true)
    (hd : isAlphanumeric d = false) : c ≠ d := by
  rintro rfl
  rw [h] at hd
  cases hd

end Text

namespace FullText

lemma isAlphanumeric_quote : Text.isAlphanumeric '"' = false := by decide +kernel

lemma isAlphanumeric_minus : Text.isAlphanumeric '-' = false := by decide +kernel

@[simp] lemma wordLists_nil : wordLists [] = [] := rfl

lemma wordLists_append {c : Char} (h : Text.isAlphanumeric c = false) (cs ds : List Char) :
    wordLists (cs ++ c :: ds) = wordLists cs ++ wordLists ds := by
  have hseparator : (!Text.isAlphanumeric c) = true := by simp [h]
  have hsplit := Text.splitBy_append (fun c => !Text.isAlphanumeric c) hseparator cs ds
  simp only [wordLists, hsplit, List.filter_append, List.map_append]

lemma wordLists_cons {c : Char} (h : Text.isAlphanumeric c = false) (cs : List Char) :
    wordLists (c :: cs) = wordLists cs :=
  wordLists_append h [] cs

lemma wordLists_append_blank (s t : String) :
    wordLists (s ++ " " ++ t).toList = wordLists s.toList ++ wordLists t.toList := by
  have hdocument : (s ++ " " ++ t).toList = s.toList ++ ' ' :: t.toList := by simp
  have hblank : Text.isAlphanumeric ' ' = false := by decide +kernel
  rw [hdocument, wordLists_append hblank]

lemma wordLists_alphanumeric {w : List Char} (h : ∀ c ∈ w, Text.isAlphanumeric c = true)
    (hne : w ≠ []) : wordLists w = [singular (Text.lowerChars w)] := by
  have hwhole : Text.splitBy (fun c => !Text.isAlphanumeric c) w = [w] :=
    Text.splitBy_of_forall_not fun c hc => by simp [h c hc]
  simp [wordLists, hwhole, hne]

lemma countRuns_pos_iff {phrase ws : List (List Char)} :
    0 < countRuns phrase ws ↔ phrase <:+: ws := by
  induction ws with
  | nil =>
    rw [countRuns, List.infix_nil]
    cases phrase <;> simp
  | cons w ws ih =>
    rw [countRuns, List.infix_cons_iff, ← ih, ← List.isPrefixOf_iff_prefix]
    split
    · rename_i hstart
      exact ⟨fun _ => .inl hstart, fun _ => Nat.add_pos_left Nat.one_pos _⟩
    · rename_i hstart
      rw [Nat.zero_add]
      exact ⟨.inr, fun h => h.resolve_left hstart⟩

lemma Term.holds_iff {t : Term} {document : List (List Char)} :
    t.holds document = true ↔ (t.words <:+: document ↔ t.negated = false) := by
  rw [holds, occurrences, ← countRuns_pos_iff]
  by_cases hoccurs : 0 < countRuns t.words document <;> cases t.negated <;> simp [hoccurs]

lemma Query.holds_iff {q : Query} {document : String} :
    q.holds document = true ↔ q.groups ≠ [] ∧
      ∀ group ∈ q.groups, ∃ t ∈ group, t.holds (wordLists document.toList) = true := by
  simp [holds, isEmpty]

lemma wordLists_piecesFrom (current : List Char) (inQuotes : Bool) (cs : List Char) :
    (piecesFrom current inQuotes cs).flatMap (fun p => wordLists p.text) =
      wordLists (current.reverse ++ cs) := by
  induction cs generalizing current inQuotes with
  | nil => cases current <;> simp [piecesFrom]
  | cons c rest ih =>
    by_cases hquote : c = '"'
    · subst hquote
      rw [wordLists_append isAlphanumeric_quote]
      cases current <;> cases inQuotes <;> simp [piecesFrom, ih]
    · by_cases hblank : (Text.isBlank c && !inQuotes) = true
      · obtain ⟨hc, hout⟩ := Bool.and_eq_true_iff.mp hblank
        rw [wordLists_append (Text.isAlphanumeric_of_isBlank hc)]
        cases current <;> simp [piecesFrom, hquote, hblank, ih]
      · simp [piecesFrom, hquote, hblank, ih]

lemma wordLists_pieces (cs : List Char) :
    (pieces cs).flatMap (fun p => wordLists p.text) = wordLists cs :=
  wordLists_piecesFrom [] false cs

@[simp] lemma pieces_nil : pieces [] = [] := rfl

lemma pieces_blank {c : Char} (h : Text.isBlank c = true) (cs : List Char) :
    pieces (c :: cs) = pieces cs := by
  have hquote : c ≠ '"' := by
    rintro rfl
    exact absurd h (by decide)
  simp [pieces, piecesFrom, hquote, h]

lemma pieces_blanks {blanks : List Char} (h : ∀ c ∈ blanks, Text.isBlank c = true)
    (cs : List Char) : pieces (blanks ++ cs) = pieces cs := by
  induction blanks with
  | nil => rfl
  | cons c blanks ih =>
    obtain ⟨hc, hblanks⟩ := List.forall_mem_cons.mp h
    rw [List.cons_append, pieces_blank hc, ih hblanks]

lemma piecesFrom_quoted {p : List Char} (h : '"' ∉ p) (current rest : List Char) :
    piecesFrom current true (p ++ '"' :: rest) = ⟨current.reverse ++ p, true⟩ :: pieces rest := by
  induction p generalizing current with
  | nil => simp [piecesFrom, pieces]
  | cons c p ih =>
    obtain ⟨hc, hp⟩ := List.ne_and_not_mem_of_not_mem_cons h
    simp [piecesFrom, hc.symm, ih hp]

lemma pieces_quoted {p : List Char} (h : '"' ∉ p) (rest : List Char) :
    pieces ('"' :: (p ++ '"' :: rest)) = ⟨p, true⟩ :: pieces rest := by
  have hopen := piecesFrom_quoted h [] rest
  simpa [pieces, piecesFrom] using hopen

lemma piecesFrom_plain {w : List Char} (h : ∀ c ∈ w, c ≠ '"' ∧ Text.isBlank c = false)
    {rest : List Char} (hrest : ∀ c ∈ rest.head?, Text.isBlank c = true) {current : List Char}
    (hne : current ++ w ≠ []) :
    piecesFrom current false (w ++ rest) = ⟨current.reverse ++ w, false⟩ :: pieces rest := by
  induction w generalizing current with
  | nil =>
    rw [List.append_nil] at hne
    cases rest with
    | nil => simp [piecesFrom, hne]
    | cons c rest =>
      have hc : Text.isBlank c = true := hrest c rfl
      have hquote : c ≠ '"' := by
        rintro rfl
        exact absurd hc (by decide)
      rw [pieces_blank hc]
      simp [piecesFrom, hquote, hc, hne, pieces]
  | cons c w ih =>
    obtain ⟨⟨hquote, hblank⟩, hw⟩ := List.forall_mem_cons.mp h
    have hbegun : c :: current ++ w ≠ [] := List.cons_ne_nil _ _
    have hrun := ih hw hbegun
    simpa [piecesFrom, hquote, hblank] using hrun

lemma pieces_plain {w : List Char} (h : ∀ c ∈ w, c ≠ '"' ∧ Text.isBlank c = false) (hne : w ≠ [])
    {rest : List Char} (hrest : ∀ c ∈ rest.head?, Text.isBlank c = true) :
    pieces (w ++ rest) = ⟨w, false⟩ :: pieces rest :=
  piecesFrom_plain h hrest (by simpa using hne)

lemma plain_of_isAlphanumeric {c : Char} (h : Text.isAlphanumeric c = true) :
    c ≠ '"' ∧ Text.isBlank c = false :=
  ⟨Text.ne_of_isAlphanumeric h isAlphanumeric_quote, Text.isBlank_of_isAlphanumeric h⟩

/-- Behind the text no quote is open and no piece has begun. -/
def EndsPiece (cs : List Char) : Prop :=
  cs.count '"' % 2 = 0 ∧ ∀ c ∈ cs.getLast?, c = '"' ∨ Text.isBlank c = true

lemma piecesFrom_append {cs : List Char}
    (hlast : ∀ c ∈ cs.getLast?, c = '"' ∨ Text.isBlank c = true) {current : List Char}
    {inQuotes : Bool} (hcount : (cs.count '"' + inQuotes.toNat) % 2 = 0)
    (hbegun : cs = [] → current = []) (rest : List Char) :
    piecesFrom current inQuotes (cs ++ rest) = piecesFrom current inQuotes cs ++ pieces rest := by
  induction cs generalizing current inQuotes with
  | nil =>
    cases inQuotes with
    | true => cases hcount
    | false => simp [hbegun rfl, piecesFrom, pieces]
  | cons c cs ih =>
    have hlast' : ∀ d ∈ cs.getLast?, d = '"' ∨ Text.isBlank d = true :=
      fun d hd => hlast d (by rw [List.getLast?_cons, hd]; rfl)
    by_cases hquote : c = '"'
    · subst hquote
      have hflip : (cs.count '"' + (!inQuotes).toNat) % 2 = 0 := by
        rw [List.count_cons_self] at hcount
        cases inQuotes <;> simp at hcount ⊢ <;> omega
      have hnext : piecesFrom [] (!inQuotes) (cs ++ rest) =
          piecesFrom [] (!inQuotes) cs ++ pieces rest := ih hlast' hflip fun _ => rfl
      rw [List.cons_append, piecesFrom, piecesFrom]
      simp only [if_true, hnext]
      split <;> rfl
    · rw [List.count_cons_of_ne hquote] at hcount
      by_cases hblank : (Text.isBlank c && !inQuotes) = true
      · have hout : inQuotes = false := by simpa using (Bool.and_eq_true_iff.mp hblank).2
        subst hout
        have hnext : piecesFrom [] false (cs ++ rest) = piecesFrom [] false cs ++ pieces rest :=
          ih hlast' hcount fun _ => rfl
        simp only [List.cons_append, piecesFrom, if_neg hquote, hblank, if_true, hnext]
        split <;> rfl
      · -- inside a quote or a word: this is not the last character
        have hmore : cs ≠ [] := by
          rintro rfl
          rcases hlast c rfl with heq | hc
          · exact hquote heq
          · cases inQuotes with
            | true => cases hcount
            | false => exact hblank (by simp [hc])
        have hnext : piecesFrom (c :: current) inQuotes (cs ++ rest) =
            piecesFrom (c :: current) inQuotes cs ++ pieces rest :=
          ih hlast' hcount fun hnil => absurd hnil hmore
        simp only [List.cons_append, piecesFrom, if_neg hquote, hblank, hnext]
        rfl

lemma EndsPiece.pieces_append {cs : List Char} (h : EndsPiece cs) (rest : List Char) :
    pieces (cs ++ rest) = pieces cs ++ pieces rest := by
  obtain ⟨hcount, hlast⟩ := h
  have hclosed : (cs.count '"' + false.toNat) % 2 = 0 := by simpa using hcount
  exact piecesFrom_append hlast hclosed (fun _ => rfl) rest

/-- A piece with words is a term with them; a minus sign counts outside quotes only. -/
lemma Piece.term?_eq (p : Piece) :
    p.term? = if wordLists p.text = [] then none
      else some ⟨wordLists p.text, !p.quoted && p.text.head? == some '-'⟩ := by
  obtain ⟨text, quoted⟩ := p
  cases quoted with
  | true => simp [term?]
  | false =>
    cases text with
    | nil => simp [term?]
    | cons c rest =>
      by_cases hc : c = '-'
      · subst hc
        simp [term?, wordLists_cons isAlphanumeric_minus]
      · have hminus : (c == '-') = false := by simpa using hc
        simp [term?, hc, hminus]

lemma Piece.term?_eq_some {p : Piece} {t : Term} (h : p.term? = some t) :
    t.words = wordLists p.text ∧ t.words ≠ [] := by
  rw [term?_eq] at h
  split at h
  · cases h
  · rename_i hne
    cases h
    exact ⟨rfl, hne⟩

/-! ## Groups -/

@[simp] lemma addTerm_apart (groups : List (List Term)) (t : Term) :
    addTerm groups false t = groups ++ [[t]] := rfl

@[simp] lemma addTerm_joined (groups : List (List Term)) (group : List Term) (t : Term) :
    addTerm (groups ++ [group]) true t = groups ++ [group ++ [t]] := by
  simp [addTerm]

lemma addTerm_cases (groups : List (List Term)) (joined : Bool) (t : Term) :
    addTerm groups joined t = groups ++ [[t]] ∨
      ∃ before group, groups = before ++ [group] ∧
        addTerm groups joined t = before ++ [group ++ [t]] := by
  cases joined with
  | false => exact .inl rfl
  | true =>
    rcases List.eq_nil_or_concat groups with rfl | ⟨before, group, rfl⟩
    · exact .inl rfl
    · rw [List.concat_eq_append]
      exact .inr ⟨before, group, rfl, addTerm_joined before group t⟩

lemma mem_addTerm {groups : List (List Term)} {joined : Bool} {t : Term} {group : List Term}
    (h : group ∈ addTerm groups joined t) :
    group ∈ groups ∨ ∃ part, (part = [] ∨ part ∈ groups) ∧ group = part ++ [t] := by
  rcases addTerm_cases groups joined t with hadd | ⟨before, last, rfl, hadd⟩
  · rw [hadd, List.mem_append, List.mem_singleton] at h
    exact h.imp_right fun hgroup => ⟨[], .inl rfl, hgroup⟩
  · rw [hadd, List.mem_append, List.mem_singleton] at h
    rcases h with hold | rfl
    · exact .inl (List.mem_append_left _ hold)
    · exact .inr ⟨last, .inr (by simp), rfl⟩

/-- What the terms of the pieces keep of the groups. -/
lemma collectGroups_keeps {ps : List Piece} {P : List (List Term) → Prop}
    (hstep : ∀ p ∈ ps, ∀ t, p.isOr = false → p.term? = some t →
      ∀ groups joined, P groups → P (addTerm groups joined t))
    {groups : List (List Term)} (joined : Bool) (h : P groups) :
    P (collectGroups groups joined ps) := by
  induction ps generalizing groups joined with
  | nil => exact h
  | cons p ps ih =>
    obtain ⟨hp, hps⟩ := List.forall_mem_cons.mp hstep
    rw [collectGroups]
    split
    · exact ih hps _ h
    · rename_i hor
      split
      · exact ih hps _ h
      · rename_i t ht
        exact ih hps _ (hp t (by simpa using hor) ht groups joined h)

/-- Every group has a term, and every term has words and comes from a piece that is not `or`. -/
lemma collectGroups_origin (ps : List Piece) (joined : Bool) :
    ∀ group ∈ collectGroups [] joined ps, group ≠ [] ∧ ∀ t ∈ group,
      t.words ≠ [] ∧ ∃ p ∈ ps, p.isOr = false ∧ p.term? = some t := by
  refine collectGroups_keeps (P := fun groups => ∀ group ∈ groups, group ≠ [] ∧ ∀ t ∈ group,
      t.words ≠ [] ∧ ∃ p ∈ ps, p.isOr = false ∧ p.term? = some t) ?_ joined (by simp)
  intro p hp t hor ht groups joined hgroups group hgroup
  rcases mem_addTerm hgroup with hold | ⟨part, hpart, rfl⟩
  · exact hgroups group hold
  · refine ⟨by simp, fun u hu => ?_⟩
    rw [List.mem_append, List.mem_singleton] at hu
    rcases hu with hu | rfl
    · rcases hpart with rfl | hpart
      · cases hu
      · exact (hgroups part hpart).2 u hu
    · exact ⟨(Piece.term?_eq_some ht).2, p, hp, hor, ht⟩

lemma collectGroups_ne_nil {groups : List (List Term)} (h : groups ≠ []) (joined : Bool)
    (ps : List Piece) : collectGroups groups joined ps ≠ [] := by
  refine collectGroups_keeps (P := (· ≠ [])) ?_ joined h
  intro p _ t _ _ groups joined _
  rcases addTerm_cases groups joined t with hadd | ⟨before, group, -, hadd⟩ <;> simp [hadd]

lemma collectGroups_ne_nil_of_mem {ps : List Piece} {p : Piece} {t : Term} (hp : p ∈ ps)
    (hor : p.isOr = false) (ht : p.term? = some t) (groups : List (List Term)) (joined : Bool) :
    collectGroups groups joined ps ≠ [] := by
  induction ps generalizing groups joined with
  | nil => cases hp
  | cons q ps ih =>
    rcases List.mem_cons.mp hp with rfl | hmem
    · have hadd : addTerm groups joined t ≠ [] := by
        rcases addTerm_cases groups joined t with hadd | ⟨before, group, -, hadd⟩ <;> simp [hadd]
      simpa [collectGroups, hor, ht] using collectGroups_ne_nil hadd false ps
    · rw [collectGroups]
      split
      · exact ih hmem _ _
      · split <;> exact ih hmem _ _

lemma collectGroups_drop {p : Piece} (hor : p.isOr = false) (hnone : p.term? = none)
    (ps qs : List Piece) (groups : List (List Term)) (joined : Bool) :
    collectGroups groups joined (ps ++ p :: qs) = collectGroups groups joined (ps ++ qs) := by
  induction ps generalizing groups joined with
  | nil => simp [collectGroups, hor, hnone]
  | cons q ps ih => simp only [List.cons_append, collectGroups, ih]

lemma collectGroups_of_forall_not_or {ps : List Piece} (h : ∀ p ∈ ps, p.isOr = false)
    (groups : List (List Term)) :
    collectGroups groups false ps = groups ++ (ps.filterMap Piece.term?).map ([·]) := by
  induction ps generalizing groups with
  | nil => simp [collectGroups]
  | cons p ps ih =>
    obtain ⟨hp, hps⟩ := List.forall_mem_cons.mp h
    cases ht : p.term? <;> simp [collectGroups, hp, ht, ih hps]

end FullText

end ReadLater
