import ReadLater.Proofs.TokenPlaces

/-!
# Places of syntax errors

A text that is no query is rejected with a byte offset. It is the offset of a character or of the
end of the text, and what stands there is at fault: a quote or a parenthesis that stays open, or a
token that cannot follow what stands before it.
-/

lemma Except.bind_eq_ok_iff {ε α β : Type} {f : α → Except ε β} {x : Except ε α} {b : β} :
    x >>= f = .ok b ↔ ∃ a, x = .ok a ∧ f a = .ok b := by
  cases x <;> simp [bind, Except.bind]

lemma Except.bind_eq_error_iff {ε α β : Type} {f : α → Except ε β} {x : Except ε α} {e : ε} :
    x >>= f = .error e ↔ x = .error e ∨ ∃ a, x = .ok a ∧ f a = .error e := by
  cases x <;> simp [bind, Except.bind]

namespace ReadLater

namespace Query

/-- The token that cannot stand where it does. -/
def Misplaced.token : Misplaced → Token
  | .close => .closing
  | .and => .and
  | .or => .or

/-- How a misplaced token begins. -/
def Misplaced.spelling : Misplaced → List Char
  | .close => [')']
  | .and => "AND".toList
  | .or => "OR".toList

lemma Misplaced.spellings_token (m : Misplaced) : m.token.spellings = [m.spelling] := by
  cases m <;> rfl

namespace ParserState

/-- The offsets of the parentheses that are open, innermost first. -/
def openOffsets (s : ParserState) : List Nat :=
  s.enclosing.map (·.offset)

/-- What a step does to the open parentheses. -/
def Nests (s s' : ParserState) (t : PlacedToken) : Prop :=
  match t.token with
  | .opening => s'.openOffsets = t.offset :: s.openOffsets
  | .closing => ∃ offset, s.openOffsets = offset :: s'.openOffsets
  | _ => s'.openOffsets = s.openOffsets

lemma nests_readOperand {s s' : ParserState} (opened : Bool) {conjunction : Option Query}
    {negations : Nat} {t : PlacedToken}
    (h : s.readOperand opened conjunction negations t = .ok s') : s.Nests s' t := by
  obtain ⟨enclosing, alternatives, phase⟩ := s
  obtain ⟨token, offset⟩ := t
  cases token with
  | opening | not | term _ =>
    cases h
    rfl
  | and | or => cases h
  | closing =>
    cases opened with
    | false => cases h
    | true =>
      cases enclosing with
      | nil => cases h
      | cons outer rest =>
        cases h
        exact ⟨outer.offset, rfl⟩

lemma nests_step {s s' : ParserState} {t : PlacedToken} (h : s.step t = .ok s') : s.Nests s' t := by
  obtain ⟨enclosing, alternatives, phase⟩ := s
  cases phase with
  | operand opened conjunction negations => exact nests_readOperand opened h
  | operator conjunction =>
    obtain ⟨token, offset⟩ := t
    cases token with
    | opening | not | term _ => exact nests_readOperand false h
    | and | or =>
      cases h
      rfl
    | closing =>
      cases enclosing with
      | nil => cases h
      | cons outer rest =>
        cases h
        exact ⟨outer.offset, rfl⟩

lemma openOffsets_run {ts : List PlacedToken} {s s' : ParserState}
    (hts : ∀ t ∈ ts, t.token ∉ [.opening, .closing]) (h : ts.foldlM step s = .ok s') :
    s'.openOffsets = s.openOffsets := by
  induction ts generalizing s with
  | nil =>
    cases h
    rfl
  | cons t ts ih =>
    obtain ⟨ht, htail⟩ := List.forall_mem_cons.mp hts
    rw [List.foldlM_cons] at h
    obtain ⟨mid, hstep, hrun⟩ := Except.bind_eq_ok_iff.mp h
    have hnests := nests_step hstep
    obtain ⟨token, offset⟩ := t
    rw [ih htail hrun]
    cases token with
    | opening | closing => simp at ht
    | and | or | not | term _ => exact hnests

lemma leavesOpen_part {before : List Char} {c : Char} {us : List PlacedToken} {s s' : ParserState}
    (hc : Parts (Text.byteLength before) c us) (hs : LeavesOpen before s.openOffsets)
    (h : us.foldlM step s = .ok s') : LeavesOpen (before ++ [c]) s'.openOffsets := by
  cases hc with
  | blank hblank =>
    have hplain : c ∉ ['"', '(', ')'] := by
      intro hmem
      simp only [List.mem_cons, List.not_mem_nil, or_false] at hmem
      rcases hmem with rfl | rfl | rfl <;> exact absurd hblank (by decide)
    cases h
    exact hs.append (.other hplain .nil)
  | opening =>
    rw [List.foldlM_cons] at h
    obtain ⟨mid, hstep, ⟨⟩⟩ := Except.bind_eq_ok_iff.mp h
    have hopening : s'.openOffsets = Text.byteLength before :: s.openOffsets := nests_step hstep
    rw [hopening]
    exact hs.opening
  | closing =>
    rw [List.foldlM_cons] at h
    obtain ⟨mid, hstep, ⟨⟩⟩ := Except.bind_eq_ok_iff.mp h
    obtain ⟨offset, hclosing⟩ := nests_step hstep
    rw [hclosing] at hs
    exact hs.closing

/-- The parentheses that are open after the tokens stay open in the text. -/
lemma leavesOpen_run {before rest : List Char} {ts : List PlacedToken} {s s' : ParserState}
    (hts : LaidOut before rest ts) (hs : LeavesOpen before s.openOffsets)
    (h : ts.foldlM step s = .ok s') : LeavesOpen (before ++ rest) s'.openOffsets := by
  induction hts generalizing s with
  | stop =>
    cases h
    rwa [List.append_nil]
  | @part before c rest us ts hparts _ ih =>
    rw [List.foldlM_append] at h
    obtain ⟨mid, hstep, hrun⟩ := Except.bind_eq_ok_iff.mp h
    have hmid := leavesOpen_part hparts hs hstep
    simpa using ih hmid hrun
  | @word before word rest ts hword _ ih =>
    rw [List.foldlM_append] at h
    obtain ⟨mid, hstep, hrun⟩ := Except.bind_eq_ok_iff.mp h
    have hmid : mid.openOffsets = s.openOffsets :=
      openOffsets_run (fun t ht => (exists_of_mem_wordTokens ht).1) hstep
    rw [← hmid] at hs
    simpa using ih (hs.append ((matched_of_unbroken word).1 hword)) hrun

lemma readOperand_error {s : ParserState} {opened : Bool} {conjunction : Option Query}
    {negations : Nat} {t : PlacedToken} {e : QueryError}
    (h : s.readOperand opened conjunction negations t = .error e) :
    ∃ m : Misplaced, t.token = m.token ∧ e = .malformed t.offset (.unexpected m) := by
  obtain ⟨enclosing, alternatives, phase⟩ := s
  obtain ⟨token, offset⟩ := t
  cases token with
  | opening | not | term _ => cases h
  | and =>
    cases h
    exact ⟨.and, rfl, rfl⟩
  | or =>
    cases h
    exact ⟨.or, rfl, rfl⟩
  | closing =>
    cases opened with
    | false =>
      cases h
      exact ⟨.close, rfl, rfl⟩
    | true =>
      cases enclosing with
      | nil =>
        cases h
        exact ⟨.close, rfl, rfl⟩
      | cons outer rest => cases h

lemma step_error {s : ParserState} {t : PlacedToken} {e : QueryError} (h : s.step t = .error e) :
    ∃ m : Misplaced, t.token = m.token ∧ e = .malformed t.offset (.unexpected m) := by
  obtain ⟨enclosing, alternatives, phase⟩ := s
  cases phase with
  | operand opened conjunction negations => exact readOperand_error h
  | operator conjunction =>
    obtain ⟨token, offset⟩ := t
    cases token with
    | opening | not | term _ | and | or => cases h
    | closing =>
      cases enclosing with
      | nil =>
        cases h
        exact ⟨.close, rfl, rfl⟩
      | cons outer rest => cases h

lemma run_error {ts : List PlacedToken} {s : ParserState} {e : QueryError}
    (h : ts.foldlM step s = .error e) :
    ∃ t ∈ ts, ∃ m : Misplaced, t.token = m.token ∧ e = .malformed t.offset (.unexpected m) := by
  induction ts generalizing s with
  | nil => cases h
  | cons t ts ih =>
    rw [List.foldlM_cons] at h
    rcases Except.bind_eq_error_iff.mp h with hstep | ⟨mid, -, hrun⟩
    · exact ⟨t, List.mem_cons_self, step_error hstep⟩
    · obtain ⟨u, hu, hfault⟩ := ih hrun
      exact ⟨u, List.mem_cons_of_mem t hu, hfault⟩

lemma finish_error {s : ParserState} {stop : Nat} {e : QueryError} (h : s.finish stop = .error e) :
    e = .malformed stop .unexpectedEnd ∨ ∃ offset offsets,
      s.openOffsets = offset :: offsets ∧ e = .malformed offset .unclosedGroup := by
  obtain ⟨enclosing, alternatives, phase⟩ := s
  cases phase with
  | operand opened conjunction negations =>
    cases h
    exact .inl rfl
  | operator conjunction =>
    cases enclosing with
    | nil => cases h
    | cons outer rest =>
      cases h
      exact .inr ⟨_, _, rfl, rfl⟩

end ParserState

/-- What stands at the offset of an error. -/
def Culprit (text : String) (offset : Nat) : SyntaxError → Prop
  | .unterminatedQuote => ∃ rest, Remains text.toList offset ('"' :: rest) ∧ '"' ∉ rest
  | .unclosedGroup => ∃ rest, Remains text.toList offset ('(' :: rest) ∧
      ∀ inner outer, rest = inner ++ ')' :: outer → ¬Matched inner
  | .unexpectedEnd => offset = text.utf8ByteSize
  | .unexpected m => ∃ rest, Remains text.toList offset (m.spelling ++ rest)

lemma Culprit.exists_append {text : String} {offset : Nat} {error : SyntaxError}
    (h : Culprit text offset error) :
    ∃ before rest, text.toList = before ++ rest ∧ Text.byteLength before = offset := by
  cases error with
  | unterminatedQuote | unclosedGroup =>
    obtain ⟨rest, ⟨before, hsplit, hoffset, -⟩, -⟩ := h
    exact ⟨before, _, hsplit, hoffset⟩
  | unexpectedEnd =>
    exact ⟨text.toList, [], by rw [List.append_nil], (Text.byteLength_toList text).trans h.symm⟩
  | unexpected m =>
    obtain ⟨rest, before, hsplit, hoffset, -⟩ := h
    exact ⟨before, _, hsplit, hoffset⟩

lemma Culprit.isValid {text : String} {offset : Nat} {error : SyntaxError}
    (h : Culprit text offset error) : (⟨offset⟩ : String.Pos.Raw).IsValid text := by
  obtain ⟨before, rest, hsplit, rfl⟩ := h.exists_append
  refine String.Pos.Raw.isValid_iff_exists_append.mpr ⟨.ofList before, .ofList rest, ?_, ?_⟩
  · rw [← String.ofList_append, ← hsplit, String.ofList_toList]
  · rw [Text.byteLength_eq]
    rfl

lemma culprit_of_ofTokens {text : String} {ts : List PlacedToken} {e : QueryError}
    (hts : tokens text.toList = .ok ts) (h : ofTokens ts text.utf8ByteSize = .error e) :
    ∃ offset error, e = .malformed offset error ∧ error ≠ .unterminatedQuote ∧
      Culprit text offset error := by
  have hlaid : LaidOut [] text.toList ts := laidOut_tokensFrom .initial hts
  unfold ofTokens at h
  by_cases hempty : ts.isEmpty = true
  · rw [if_pos hempty] at h
    cases h
  · rw [if_neg hempty] at h
    rcases Except.bind_eq_error_iff.mp h with hrun | ⟨s, hrun, hfinish⟩
    · obtain ⟨t, ht, m, htoken, rfl⟩ := ParserState.run_error hrun
      obtain ⟨spelling, hspelling, rest, hremains⟩ := hlaid.remains (by simp) ht
      rw [htoken, m.spellings_token] at hspelling
      cases List.mem_singleton.mp hspelling
      exact ⟨_, _, rfl, by simp, rest, hremains⟩
    · rcases ParserState.finish_error hfinish with rfl | ⟨offset, offsets, hopen, rfl⟩
      · exact ⟨_, _, rfl, by simp, rfl⟩
      · have hleaves := ParserState.leavesOpen_run (s := .initial) hlaid (.matched .nil) hrun
        rw [hopen] at hleaves
        exact ⟨_, _, rfl, by simp, hleaves.exists_remains⟩

/-- A text that is no query is rejected for one of six reasons at an offset between two characters,
where the culprit stands: the last quote, which opens what nothing closes; a parenthesis that no
later one outside of quotes closes; the end of the text; or the token that the reason names. It is
for a quote that texts with an odd number of them are rejected. -/
theorem parse_error_at_culprit {text : String} {e : QueryError} (h : parse text = .error e) :
    ∃ offset error, e = .malformed offset error ∧
      (⟨offset⟩ : String.Pos.Raw).IsValid text ∧ offset ≤ text.utf8ByteSize ∧
      Culprit text offset error ∧
      error.reason ∈ ["unterminated quote", "unclosed '('", "unexpected end of query",
        "unexpected ')'", "unexpected AND", "unexpected OR"] ∧
      (error = .unterminatedQuote ↔ ¬Even (text.toList.count '"')) := by
  have heven : Balanced false text.toList ↔ Even (text.toList.count '"') := by simp [Balanced]
  have hplace : ∃ offset error, e = .malformed offset error ∧ Culprit text offset error ∧
      (error = .unterminatedQuote ↔ ¬Even (text.toList.count '"')) := by
    rcases cut_tokens text.toList with ⟨hbalanced, ts, hts⟩ | ⟨hopen, q, hq⟩
    · rw [parse_of_tokens hts] at h
      obtain ⟨offset, error, rfl, hne, hculprit⟩ := culprit_of_ofTokens hts h
      exact ⟨offset, error, rfl, hculprit, iff_of_false hne (not_not.mpr (heven.mp hbalanced))⟩
    · have hparse : parse text = .error (.malformed q .unterminatedQuote) := by
        rw [parse, hq]
        rfl
      cases hparse.symm.trans h
      have hnone : QuoteOpen [] none := Even.zero
      obtain ⟨q', hq', hculprit⟩ := quoteOpen_of_tokensFrom hnone rfl hq
      cases hq'
      exact ⟨q, _, rfl, hculprit, iff_of_true rfl (mt heven.mpr hopen)⟩
  obtain ⟨offset, error, rfl, hculprit, hquote⟩ := hplace
  have hvalid := hculprit.isValid
  refine ⟨offset, error, rfl, hvalid, hvalid.le_utf8ByteSize, hculprit, ?_, hquote⟩
  cases error with
  | unterminatedQuote | unclosedGroup | unexpectedEnd => simp [SyntaxError.reason]
  | unexpected m => cases m <;> simp [SyntaxError.reason]

/-- A parenthesis before one in quotes and one that is closed; and a keyword behind minus signs. -/
theorem parse_error_at_culprit_behind_umlauts :
    let text := "ö (\"ü)\" (b) c"
    parse text = .error (.malformed 3 .unclosedGroup) ∧
      (⟨3⟩ : String.Pos.Raw).IsValid text ∧
      (∃ rest, Remains text.toList 3 ('(' :: rest) ∧
        ∀ inner outer, rest = inner ++ ')' :: outer → ¬Matched inner) ∧
      parse "ä --AND" = .error (.malformed 5 (.unexpected .and)) ∧
      ∃ rest, Remains "ä --AND".toList 5 ("AND".toList ++ rest) := by
  intro text
  have hunclosed : parse text = .error (.malformed 3 .unclosedGroup) := by
    have hts : tokens text.toList = .ok [⟨.term ['ö'], 0⟩, ⟨.opening, 3⟩,
        ⟨.term ['"', 'ü', ')', '"'], 4⟩, ⟨.opening, 10⟩, ⟨.term ['b'], 11⟩, ⟨.closing, 12⟩,
        ⟨.term ['c'], 14⟩] := by decide +kernel
    rw [parse_of_tokens hts]
    rfl
  have hmisplaced : parse "ä --AND" = .error (.malformed 5 (.unexpected .and)) := by
    have hts : tokens "ä --AND".toList =
        .ok [⟨.term ['ä'], 0⟩, ⟨.not, 3⟩, ⟨.not, 4⟩, ⟨.and, 5⟩] := by decide +kernel
    rw [parse_of_tokens hts]
    rfl
  obtain ⟨_, _, heq, hvalid, -, hculprit, -⟩ := parse_error_at_culprit hunclosed
  cases heq
  obtain ⟨_, _, heq, -, -, hculprit', -⟩ := parse_error_at_culprit hmisplaced
  cases heq
  exact ⟨hunclosed, hvalid, hculprit, hmisplaced, hculprit'⟩

end Query

end ReadLater
