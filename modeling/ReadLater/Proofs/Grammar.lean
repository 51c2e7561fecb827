import Mathlib.Algebra.Group.Nat.Even
import Mathlib.Data.List.Basic
import Mathlib.Tactic.Lemma
import ReadLater.Query.Parser

/-!
# The grammar of queries

The token lists that stand for queries, as a grammar. AND binds tighter than OR, may be left out,
and both chain to the left. The reader of queries finds a tree just for the token lists that derive
from the grammar, and it is the only tree that they derive.
-/

namespace ReadLater.Query

/-- What a part of a query may be, from the loosest to the tightest. -/
inductive Nonterminal
  | disjunction
  | conjunction
  | unary
  | primary
deriving DecidableEq, Repr

/-- `Derives n ts q`: the tokens `ts` are an `n` and stand for the tree `q`. -/
inductive Derives : Nonterminal → List Token → Query → Prop
  | alternative {ts q} : Derives .conjunction ts q → Derives .disjunction ts q
  | or {ts us p q} : Derives .disjunction ts p → Derives .conjunction us q →
      Derives .disjunction (ts ++ .or :: us) (.logical .or p q)
  | factor {ts q} : Derives .unary ts q → Derives .conjunction ts q
  | and {ts us p q} : Derives .conjunction ts p → Derives .unary us q →
      Derives .conjunction (ts ++ .and :: us) (.logical .and p q)
  | implicitAnd {ts us p q} : Derives .conjunction ts p → Derives .unary us q →
      Derives .conjunction (ts ++ us) (.logical .and p q)
  | not {ts q} : Derives .unary ts q → Derives .unary (.not :: ts) (.negation .word q)
  | operand {ts q} : Derives .primary ts q → Derives .unary ts q
  | emptyGroup : Derives .primary [.opening, .closing] (.group .empty)
  | group {ts q} : Derives .disjunction ts q →
      Derives .primary (.opening :: (ts ++ [.closing])) (.group q)
  | term (word : List Char) : Derives .primary [.term word] (leaf word)

lemma negate_negation (n : Nat) (q : Query) :
    negate n (.negation .word q) = .negation .word (negate n q) := by
  induction n with
  | zero => rfl
  | succ n ih => rw [negate, ih, negate]

/-! ## Every derivation is found -/

/-- The token can begin an operand. -/
def Token.beginsOperand : Token → Bool
  | .opening | .not | .term _ => true
  | .closing | .and | .or => false

lemma Derives.exists_cons {n : Nonterminal} {ts : List Token} {q : Query} (h : Derives n ts q) :
    ∃ t rest, ts = t :: rest ∧ t.beginsOperand = true := by
  induction h with
  | alternative _ ih | factor _ ih | operand _ ih => exact ih
  | or _ _ ih _ | and _ _ ih _ | implicitAnd _ _ ih _ =>
    obtain ⟨t, rest, rfl, ht⟩ := ih
    exact ⟨t, _, rfl, ht⟩
  | not _ _ => exact ⟨_, _, rfl, rfl⟩
  | emptyGroup => exact ⟨_, _, rfl, rfl⟩
  | group _ _ => exact ⟨_, _, rfl, rfl⟩
  | term word => exact ⟨_, _, rfl, rfl⟩

namespace ParserState

/-- After an operand another one may follow at once, as after AND. -/
lemma step_operator_of_beginsOperand {t : PlacedToken} (ht : t.token.beginsOperand = true)
    (enclosing : List Enclosing) (alternatives : Option Query) (conjunction : Query) :
    step ⟨enclosing, alternatives, .operator conjunction⟩ t =
      step ⟨enclosing, alternatives, .operand false (some conjunction) 0⟩ t := by
  obtain ⟨token, offset⟩ := t
  cases token with
  | opening | not | term _ => rfl
  | closing | and | or => cases ht

/-- What reading the tokens of a nonterminal does. The alternatives and the conjunction to the left
are those of the state before. -/
def Completes : Nonterminal → Query → List PlacedToken → Prop
  | .disjunction, q, us => ∀ enclosing opened, ∃ alternatives conjunction,
      joinLeft .or alternatives conjunction = q ∧
        us.foldlM step ⟨enclosing, none, .operand opened none 0⟩ =
          .ok ⟨enclosing, alternatives, .operator conjunction⟩
  | .conjunction, q, us => ∀ enclosing alternatives opened,
      us.foldlM step ⟨enclosing, alternatives, .operand opened none 0⟩ =
        .ok ⟨enclosing, alternatives, .operator q⟩
  | _, q, us => ∀ enclosing alternatives opened conjunction negations,
      us.foldlM step ⟨enclosing, alternatives, .operand opened conjunction negations⟩ =
        .ok ⟨enclosing, alternatives,
          .operator (joinLeft .and conjunction (negate negations q))⟩

lemma completes_group {q : Query} {us : List PlacedToken} {opening closing : PlacedToken}
    (hopening : opening.token = .opening) (hclosing : closing.token = .closing)
    (h : Completes .disjunction q us) :
    Completes .primary (.group q) (opening :: (us ++ [closing])) := by
  obtain ⟨token, offset⟩ := opening
  obtain ⟨token', offset'⟩ := closing
  cases hopening
  cases hclosing
  intro enclosing alternatives opened conjunction negations
  let outer : Enclosing := ⟨alternatives, conjunction, negations, offset⟩
  obtain ⟨inner, last, rfl, hrun⟩ := h (outer :: enclosing) true
  have hstep : step ⟨enclosing, alternatives, .operand opened conjunction negations⟩
      ⟨.opening, offset⟩ = .ok ⟨outer :: enclosing, none, .operand true none 0⟩ := rfl
  simp only [List.foldlM_cons, List.foldlM_append, hstep, bind, Except.bind, hrun]
  rfl

/-- Reading the tokens of a derivation completes its tree, whatever stands to the left. -/
theorem completes_of_derives {n : Nonterminal} {ts : List Token} {q : Query} (h : Derives n ts q)
    {us : List PlacedToken} (hus : us.map (·.token) = ts) : Completes n q us := by
  -- what is open to the left is any state, as a right operand meets the one its left operand leaves
  induction h generalizing us with
  | alternative _ ih =>
    intro enclosing opened
    exact ⟨none, _, rfl, ih hus enclosing none opened⟩
  | or _ _ ihl ihr =>
    obtain ⟨left, rest, rfl, hleft, hrest⟩ := List.map_eq_append_iff.mp hus
    obtain ⟨⟨token, offset⟩, right, rfl, rfl, hright⟩ := List.map_eq_cons_iff.mp hrest
    intro enclosing opened
    obtain ⟨alternatives, conjunction, rfl, hrun⟩ := ihl hleft enclosing opened
    refine ⟨some (joinLeft .or alternatives conjunction), _, rfl, ?_⟩
    simp only [List.foldlM_append, hrun, bind, Except.bind, List.foldlM_cons]
    exact ihr hright enclosing _ false
  | factor _ ih =>
    intro enclosing alternatives opened
    exact ih hus enclosing alternatives opened none 0
  | and _ _ ihl ihr =>
    obtain ⟨left, rest, rfl, hleft, hrest⟩ := List.map_eq_append_iff.mp hus
    obtain ⟨⟨token, offset⟩, right, rfl, rfl, hright⟩ := List.map_eq_cons_iff.mp hrest
    intro enclosing alternatives opened
    simp only [List.foldlM_append, ihl hleft enclosing alternatives opened, bind, Except.bind,
      List.foldlM_cons]
    exact ihr hright enclosing alternatives false _ 0
  | @implicitAnd _ _ p _ _ hr ihl ihr =>
    obtain ⟨left, right, rfl, hleft, hright⟩ := List.map_eq_append_iff.mp hus
    intro enclosing alternatives opened
    obtain ⟨t, ts, hts, hbegins⟩ := hr.exists_cons
    rw [hts] at hright
    obtain ⟨first, rest, rfl, rfl, -⟩ := List.map_eq_cons_iff.mp hright
    have hrun := ihr (hright.trans hts.symm) enclosing alternatives false (some p) 0
    rw [List.foldlM_cons] at hrun
    simp only [List.foldlM_append, ihl hleft enclosing alternatives opened, bind, Except.bind,
      List.foldlM_cons, step_operator_of_beginsOperand hbegins]
    exact hrun
  | not _ ih =>
    obtain ⟨⟨token, offset⟩, rest, rfl, rfl, hrest⟩ := List.map_eq_cons_iff.mp hus
    intro enclosing alternatives opened conjunction negations
    rw [List.foldlM_cons, negate_negation]
    exact ih hrest enclosing alternatives false conjunction (negations + 1)
  | operand _ ih => exact ih hus
  | emptyGroup =>
    obtain ⟨⟨token, offset⟩, rest, rfl, rfl, hrest⟩ := List.map_eq_cons_iff.mp hus
    obtain ⟨⟨token', offset'⟩, last, rfl, rfl, hlast⟩ := List.map_eq_cons_iff.mp hrest
    cases List.map_eq_nil_iff.mp hlast
    intro enclosing alternatives opened conjunction negations
    rfl
  | group _ ih =>
    obtain ⟨opening, rest, rfl, hopening, hrest⟩ := List.map_eq_cons_iff.mp hus
    obtain ⟨inner, last, rfl, hinner, hlast⟩ := List.map_eq_append_iff.mp hrest
    obtain ⟨closing, last, rfl, hclosing, hlast⟩ := List.map_eq_cons_iff.mp hlast
    cases List.map_eq_nil_iff.mp hlast
    exact completes_group hopening hclosing (ih hinner)
  | term word =>
    obtain ⟨⟨token, offset⟩, rest, rfl, rfl, hrest⟩ := List.map_eq_cons_iff.mp hus
    cases List.map_eq_nil_iff.mp hrest
    intro enclosing alternatives opened conjunction negations
    rfl

end ParserState

/-! ## Every tree is derived -/

/-- The tokens to the left of the current conjunction. -/
inductive ReadsAlternatives : Option Query → List Token → Prop
  | none : ReadsAlternatives none []
  | some {ts q} : Derives .disjunction ts q → ReadsAlternatives (some q) (ts ++ [.or])

/-- The tokens to the left of the current operand, with or without AND. -/
inductive ReadsConjunction : Option Query → List Token → Prop
  | none : ReadsConjunction none []
  | some {ts q} : Derives .conjunction ts q → ReadsConjunction (some q) ts
  | and {ts q} : Derives .conjunction ts q → ReadsConjunction (some q) (ts ++ [.and])

lemma ReadsAlternatives.joinLeft {alternatives : Option Query} {ts us : List Token} {q : Query}
    (h : ReadsAlternatives alternatives ts) (hq : Derives .conjunction us q) :
    Derives .disjunction (ts ++ us) (Query.joinLeft .or alternatives q) := by
  cases h with
  | none => exact .alternative hq
  | some hleft =>
    rw [List.append_assoc]
    exact .or hleft hq

lemma ReadsConjunction.joinLeft {conjunction : Option Query} {ts us : List Token} {q : Query}
    (h : ReadsConjunction conjunction ts) (hq : Derives .unary us q) :
    Derives .conjunction (ts ++ us) (Query.joinLeft .and conjunction q) := by
  cases h with
  | none => exact .factor hq
  | some hleft => exact .implicitAnd hleft hq
  | and hleft =>
    rw [List.append_assoc]
    exact .and hleft hq

lemma Derives.negate {ts : List Token} {q : Query} (h : Derives .unary ts q) (n : Nat) :
    Derives .unary (List.replicate n .not ++ ts) (Query.negate n q) := by
  induction n with
  | zero => exact h
  | succ n ih => exact .not ih

/-- The tokens up to the innermost open parenthesis. -/
inductive ReadsEnclosing : List Enclosing → List Token → Prop
  | nil : ReadsEnclosing [] []
  | cons {outer rest ts as cs} : ReadsEnclosing rest ts →
      ReadsAlternatives outer.alternatives as → ReadsConjunction outer.conjunction cs →
      ReadsEnclosing (outer :: rest)
        (ts ++ (as ++ (cs ++ (List.replicate outer.negations .not ++ [.opening]))))

namespace ParserState

/-- The tokens that have been read when the state is reached. -/
inductive Reads : ParserState → List Token → Prop
  | operand {enclosing alternatives opened conjunction negations ts as cs} :
      ReadsEnclosing enclosing ts → ReadsAlternatives alternatives as →
      ReadsConjunction conjunction cs →
      (opened = true → as = [] ∧ cs = [] ∧ negations = 0) →
      Reads ⟨enclosing, alternatives, .operand opened conjunction negations⟩
        (ts ++ (as ++ (cs ++ List.replicate negations .not)))
  | operator {enclosing alternatives conjunction ts as cs} :
      ReadsEnclosing enclosing ts → ReadsAlternatives alternatives as →
      Derives .conjunction cs conjunction →
      Reads ⟨enclosing, alternatives, .operator conjunction⟩ (ts ++ (as ++ cs))

lemma reads_operand (opened : Bool) {enclosing : List Enclosing}
    {alternatives conjunction : Option Query} {ts as cs : List Token}
    (hts : ReadsEnclosing enclosing ts) (has : ReadsAlternatives alternatives as)
    (hcs : ReadsConjunction conjunction cs)
    (hopened : opened = true → as = [] ∧ cs = []) :
    Reads ⟨enclosing, alternatives, .operand opened conjunction 0⟩ (ts ++ (as ++ cs)) := by
  rw [← List.append_nil cs]
  exact .operand hts has hcs fun h => ⟨(hopened h).1, (hopened h).2, rfl⟩

lemma reads_initial : Reads initial [] :=
  .operand .nil .none .none (by simp)

lemma reads_complete {enclosing : List Enclosing} {alternatives conjunction : Option Query}
    {ts as cs us : List Token} {q : Query} (negations : Nat) (hts : ReadsEnclosing enclosing ts)
    (has : ReadsAlternatives alternatives as) (hcs : ReadsConjunction conjunction cs)
    (hq : Derives .primary us q) :
    Reads ⟨enclosing, alternatives, .operator (joinLeft .and conjunction (negate negations q))⟩
      (ts ++ (as ++ (cs ++ (List.replicate negations .not ++ us)))) :=
  .operator hts has (hcs.joinLeft ((Derives.operand hq).negate negations))

lemma reads_closing {outer : Enclosing} {rest : List Enclosing} {ts us : List Token} {q : Query}
    (h : ReadsEnclosing (outer :: rest) ts)
    (hq : Derives .primary (.opening :: (us ++ [.closing])) q) :
    Reads ⟨rest, outer.alternatives,
      .operator (joinLeft .and outer.conjunction (negate outer.negations q))⟩
      (ts ++ (us ++ [.closing])) := by
  cases h with
  | cons hts has hcs =>
    have hreads := reads_complete outer.negations hts has hcs hq
    simpa only [List.append_assoc, List.cons_append, List.nil_append] using hreads

lemma reads_step_operand {enclosing : List Enclosing} {alternatives conjunction : Option Query}
    {opened : Bool} {negations : Nat} {s' : ParserState} {t : PlacedToken} {ts as cs : List Token}
    (hts : ReadsEnclosing enclosing ts) (has : ReadsAlternatives alternatives as)
    (hcs : ReadsConjunction conjunction cs)
    (hopened : opened = true → as = [] ∧ cs = [] ∧ negations = 0)
    (h : step ⟨enclosing, alternatives, .operand opened conjunction negations⟩ t = .ok s') :
    Reads s' (ts ++ (as ++ (cs ++ (List.replicate negations .not ++ [t.token])))) := by
  obtain ⟨token, offset⟩ := t
  cases token with
  | term word =>
    cases h
    exact reads_complete negations hts has hcs (.term word)
  | not =>
    cases h
    rw [← List.replicate_succ']
    exact .operand hts has hcs (by simp)
  | opening =>
    cases h
    have henclosing : ReadsEnclosing (⟨alternatives, conjunction, negations, offset⟩ :: enclosing)
        (ts ++ (as ++ (cs ++ (List.replicate negations .not ++ [.opening])))) := .cons hts has hcs
    have hreads := reads_operand true henclosing .none .none fun _ => ⟨rfl, rfl⟩
    rwa [List.append_nil, List.append_nil] at hreads
  | closing =>
    cases opened with
    | false => cases h
    | true =>
      obtain ⟨rfl, rfl, rfl⟩ := hopened rfl
      cases enclosing with
      | nil => cases h
      | cons outer rest =>
        cases h
        have hempty : Derives .primary (.opening :: ([] ++ [.closing])) (.group .empty) :=
          .emptyGroup
        exact reads_closing hts hempty
  | and => cases h
  | or => cases h

lemma reads_step {s s' : ParserState} {t : PlacedToken} {ts : List Token} (hs : Reads s ts)
    (h : s.step t = .ok s') : Reads s' (ts ++ [t.token]) := by
  cases hs with
  | operand hts has hcs hopened =>
    simpa only [List.append_assoc] using reads_step_operand hts has hcs hopened h
  | @operator enclosing alternatives conjunction ts as cs hts has hq =>
    obtain ⟨token, offset⟩ := t
    rw [List.append_assoc, List.append_assoc]
    cases token with
    | opening | not | term _ =>
      rw [step_operator_of_beginsOperand rfl] at h
      simpa only [List.replicate_zero, List.nil_append] using
        reads_step_operand hts has (.some hq) (by simp) h
    | and =>
      cases h
      exact reads_operand false hts has (.and hq) (by simp)
    | or =>
      cases h
      have hreads := reads_operand false hts (.some (has.joinLeft hq)) .none (by simp)
      simpa only [List.append_nil, List.append_assoc] using hreads
    | closing =>
      cases enclosing with
      | nil => cases h
      | cons outer rest =>
        cases h
        simpa only [List.append_assoc] using reads_closing hts (.group (has.joinLeft hq))

/-- What a run over the tokens reaches has read just these tokens. -/
theorem reads_run {us : List PlacedToken} {s s' : ParserState} {ts : List Token} (hs : Reads s ts)
    (h : us.foldlM step s = .ok s') : Reads s' (ts ++ us.map (·.token)) := by
  induction us generalizing s ts with
  | nil =>
    cases h
    simpa using hs
  | cons t us ih =>
    rw [List.foldlM_cons] at h
    cases hstep : s.step t with
    | error e => simp [hstep, bind, Except.bind] at h
    | ok mid =>
      simp only [hstep, bind, Except.bind] at h
      simpa using ih (reads_step hs hstep) h

lemma derives_of_finish {s : ParserState} {stop : Nat} {ts : List Token} {q : Query}
    (hs : Reads s ts) (h : s.finish stop = .ok q) : Derives .disjunction ts q := by
  cases hs with
  | operand => cases h
  | @operator enclosing _ _ _ _ _ hts has hq =>
    cases enclosing with
    | cons outer rest => cases h
    | nil =>
      cases h
      cases hts
      exact has.joinLeft hq

end ParserState

/-- Between tokens and trees the reader is the grammar. -/
theorem ofTokens_eq_ok_iff {ts : List PlacedToken} {stop : Nat} {q : Query} (hts : ts ≠ []) :
    ofTokens ts stop = .ok q ↔ Derives .disjunction (ts.map (·.token)) q := by
  unfold ofTokens
  rw [if_neg (by simpa using hts)]
  constructor
  · intro h
    cases hrun : ts.foldlM ParserState.step .initial with
    | error e => simp [hrun, bind, Except.bind] at h
    | ok s =>
      simp only [hrun, bind, Except.bind] at h
      exact ParserState.derives_of_finish (ParserState.reads_run ParserState.reads_initial hrun) h
  · intro h
    obtain ⟨alternatives, conjunction, rfl, hrun⟩ :=
      ParserState.completes_of_derives h rfl [] false
    simp only [ParserState.initial, hrun, bind, Except.bind]
    rfl

theorem Derives.unique {ts : List Token} {p q : Query} (hp : Derives .disjunction ts p)
    (hq : Derives .disjunction ts q) : p = q := by
  obtain ⟨t, rest, rfl, -⟩ := hp.exists_cons
  let us : List PlacedToken := (t :: rest).map (⟨·, 0⟩)
  have hus : us.map (·.token) = t :: rest := by simp [us, Function.comp_def]
  have hne : us ≠ [] := by simp [us]
  have hread : ofTokens us 0 = .ok p := (ofTokens_eq_ok_iff hne).mpr (hus.symm ▸ hp)
  exact Except.ok.inj (hread.symm.trans ((ofTokens_eq_ok_iff hne).mpr (hus.symm ▸ hq)))

/-! ## Texts -/

/-- Every double quote of the text is closed; `inQuotes` holds if one stands open before it. -/
def Balanced (inQuotes : Bool) (cs : List Char) : Prop :=
  Even (cs.count '"' + inQuotes.toNat)

lemma balanced_quote (inQuotes : Bool) (cs : List Char) :
    Balanced inQuotes ('"' :: cs) ↔ Balanced (!inQuotes) cs := by
  unfold Balanced
  rw [List.count_cons_self]
  cases inQuotes with
  | false => rfl
  | true => simp [Nat.even_add_one]

lemma balanced_other {c : Char} (hc : c ≠ '"') (inQuotes : Bool) (cs : List Char) :
    Balanced inQuotes (c :: cs) ↔ Balanced inQuotes cs := by
  rw [Balanced, List.count_cons_of_ne hc, Balanced]

/-- The text has been cut into tokens, if its quotes are closed, and else fails for one of them. -/
def Cut (closed : Prop) (result : Except QueryError (List PlacedToken)) : Prop :=
  closed ∧ (∃ ts, result = .ok ts) ∨
    ¬closed ∧ ∃ offset, result = .error (.malformed offset .unterminatedQuote)

lemma Cut.map {closed : Prop} {result : Except QueryError (List PlacedToken)}
    (h : Cut closed result) (f : List PlacedToken → List PlacedToken) :
    Cut closed (result.map f) := by
  rcases h with ⟨hclosed, ts, rfl⟩ | ⟨hopen, offset, rfl⟩
  · exact .inl ⟨hclosed, f ts, rfl⟩
  · exact .inr ⟨hopen, offset, rfl⟩

lemma cut_tokensFrom (cs : List Char) (offset start : Nat) (word : List Char)
    (quote : Option Nat) :
    Cut (Balanced quote.isSome cs) (tokensFrom offset start word quote cs) := by
  induction cs generalizing offset start word quote with
  | nil =>
    cases quote with
    | none => exact .inl ⟨by simp [Balanced], _, rfl⟩
    | some q => exact .inr ⟨by simp [Balanced], q, rfl⟩
  | cons c rest ih =>
    by_cases hc : c = '"'
    · subst hc
      rw [balanced_quote]
      simp only [tokensFrom, if_true]
      cases quote with
      | none => exact ih _ _ _ (some offset)
      | some q => exact ih _ _ _ none
    · rw [balanced_other hc]
      simp only [tokensFrom, if_neg hc]
      cases quote with
      | some q => exact ih _ _ _ (some q)
      | none =>
        simp only [Option.isSome_none, Bool.false_eq_true, if_false]
        by_cases hblank : Text.isBlank c = true
        · rw [if_pos hblank]
          exact (ih _ _ _ none).map _
        · rw [if_neg hblank]
          by_cases hbracket : c = '(' ∨ c = ')'
          · rw [if_pos hbracket]
            exact (ih _ _ _ none).map _
          · rw [if_neg hbracket]
            exact ih _ _ _ none

lemma cut_tokens (text : List Char) : Cut (Balanced false text) (tokens text) :=
  cut_tokensFrom text 0 0 [] none

/-- The query is rejected as malformed. -/
def Malformed {α : Type} (result : Except QueryError α) : Prop :=
  ∃ offset error, result = .error (.malformed offset error)

namespace ParserState

lemma readOperand_cases (s : ParserState) (opened : Bool) (conjunction : Option Query)
    (negations : Nat) (t : PlacedToken) :
    (∃ s', s.readOperand opened conjunction negations t = .ok s') ∨
      Malformed (s.readOperand opened conjunction negations t) := by
  obtain ⟨enclosing, alternatives, phase⟩ := s
  obtain ⟨token, offset⟩ := t
  cases token with
  | opening | not | term _ => exact .inl ⟨_, rfl⟩
  | and | or => exact .inr ⟨_, _, rfl⟩
  | closing =>
    cases opened with
    | false => exact .inr ⟨_, _, rfl⟩
    | true =>
      cases enclosing with
      | nil => exact .inr ⟨_, _, rfl⟩
      | cons outer rest => exact .inl ⟨_, rfl⟩

lemma step_cases (s : ParserState) (t : PlacedToken) :
    (∃ s', s.step t = .ok s') ∨ Malformed (s.step t) := by
  obtain ⟨enclosing, alternatives, phase⟩ := s
  cases phase with
  | operand opened conjunction negations => exact readOperand_cases _ _ _ _ t
  | operator conjunction =>
    obtain ⟨token, offset⟩ := t
    cases token with
    | opening | not | term _ | and | or => exact .inl ⟨_, rfl⟩
    | closing =>
      cases enclosing with
      | nil => exact .inr ⟨_, _, rfl⟩
      | cons outer rest => exact .inl ⟨_, rfl⟩

lemma finish_cases (s : ParserState) (stop : Nat) :
    (∃ q, s.finish stop = .ok q) ∨ Malformed (s.finish stop) := by
  obtain ⟨enclosing, alternatives, phase⟩ := s
  cases phase with
  | operand opened conjunction negations => exact .inr ⟨_, _, rfl⟩
  | operator conjunction =>
    cases enclosing with
    | nil => exact .inl ⟨_, rfl⟩
    | cons outer rest => exact .inr ⟨_, _, rfl⟩

lemma run_cases (us : List PlacedToken) (s : ParserState) :
    (∃ s', us.foldlM step s = .ok s') ∨ Malformed (us.foldlM step s) := by
  induction us generalizing s with
  | nil => exact .inl ⟨s, rfl⟩
  | cons t us ih =>
    rw [List.foldlM_cons]
    rcases s.step_cases t with ⟨s', hs'⟩ | ⟨offset, error, herror⟩
    · rw [hs']
      exact ih s'
    · rw [herror]
      exact .inr ⟨offset, error, rfl⟩

end ParserState

lemma ofTokens_cases (ts : List PlacedToken) (stop : Nat) :
    (∃ q, ofTokens ts stop = .ok q) ∨ Malformed (ofTokens ts stop) := by
  unfold ofTokens
  split_ifs
  · exact .inl ⟨_, rfl⟩
  · rcases ParserState.run_cases ts .initial with ⟨s, hs⟩ | ⟨offset, error, herror⟩
    · rw [hs]
      exact s.finish_cases stop
    · rw [herror]
      exact .inr ⟨offset, error, rfl⟩

lemma parse_of_tokens {text : String} {ts : List PlacedToken} (h : tokens text.toList = .ok ts) :
    parse text = ofTokens ts text.utf8ByteSize := by
  rw [parse, h]
  rfl

/-- A text is read as the one tree that its tokens derive, or as the empty query if it has none. If
a quote is left open or the tokens derive no tree, it is rejected as malformed. -/
theorem parse_grammar (text : String) :
    ((∃ ts, tokens text.toList = .ok ts) ↔ Even (text.toList.count '"')) ∧
    (∀ ts, tokens text.toList = .ok ts →
      (ts = [] → parse text = .ok .empty) ∧
      (ts ≠ [] → ∀ q, parse text = .ok q ↔ Derives .disjunction (ts.map (·.token)) q)) ∧
    (∀ ts p q, Derives .disjunction ts p → Derives .disjunction ts q → p = q) ∧
    (Malformed (parse text) ↔
      ¬Even (text.toList.count '"') ∨
        ∃ ts, tokens text.toList = .ok ts ∧ ts ≠ [] ∧
          ∀ q, ¬Derives .disjunction (ts.map (·.token)) q) := by
  rcases cut_tokens text.toList with ⟨hbalanced, ts, hts⟩ | ⟨hopen, offset, hoffset⟩
  · have hparse := parse_of_tokens hts
    have heven : Even (text.toList.count '"') := by simpa [Balanced] using hbalanced
    refine ⟨iff_of_true ⟨ts, hts⟩ heven, fun ts' hts' => ?_, fun _ _ _ => Derives.unique, ?_⟩
    · cases hts.symm.trans hts'
      refine ⟨fun hnil => ?_, fun hne q => ?_⟩
      · rw [hparse, hnil]
        rfl
      · rw [hparse, ofTokens_eq_ok_iff hne]
    · constructor
      · rintro ⟨offset, error, herror⟩
        have hne : ts ≠ [] := by
          rintro rfl
          rw [hparse] at herror
          cases herror
        refine .inr ⟨ts, hts, hne, fun q hq => ?_⟩
        rw [hparse, (ofTokens_eq_ok_iff hne).mpr hq] at herror
        cases herror
      · rintro (hodd | ⟨ts', hts', hne, hnone⟩)
        · exact absurd heven hodd
        · cases hts.symm.trans hts'
          rw [hparse]
          rcases ofTokens_cases ts text.utf8ByteSize with ⟨q, hq⟩ | hmalformed
          · exact absurd ((ofTokens_eq_ok_iff hne).mp hq) (hnone q)
          · exact hmalformed
  · have hodd : ¬Even (text.toList.count '"') := by simpa [Balanced] using hopen
    have hparse : parse text = .error (.malformed offset .unterminatedQuote) := by
      rw [parse, hoffset]
      rfl
    have hnone : ∀ ts, tokens text.toList ≠ .ok ts := by
      intro ts hts
      rw [hoffset] at hts
      cases hts
    exact ⟨iff_of_false (fun ⟨ts, hts⟩ => hnone ts hts) hodd, fun ts hts => absurd hts (hnone ts),
      fun _ _ _ => Derives.unique, iff_of_true ⟨_, _, hparse⟩ (.inl hodd)⟩

/-- A negated group, an empty group beside it, and an alternative; a quote that is left open; and a
parenthesis too many. -/
theorem parse_grammar_nested :
    let text := "rust OR NOT (\"a b\" -is:read) ()"
    let ts : List PlacedToken :=
      [⟨.term ['r', 'u', 's', 't'], 0⟩, ⟨.or, 5⟩, ⟨.not, 8⟩, ⟨.opening, 12⟩,
        ⟨.term ['"', 'a', ' ', 'b', '"'], 13⟩, ⟨.not, 19⟩,
        ⟨.term ['i', 's', ':', 'r', 'e', 'a', 'd'], 20⟩, ⟨.closing, 27⟩, ⟨.opening, 29⟩,
        ⟨.closing, 30⟩]
    let q : Query :=
      .logical .or (.text "rust" false)
        (.logical .and
          (.negation .word (.group (.logical .and (.text "a b" true)
            (.negation .word (.tag ⟨.named "is" false, .literal (.string "read") false⟩)))))
          (.group .empty))
    tokens text.toList = .ok ts ∧ Derives .disjunction (ts.map (·.token)) q ∧
      (∀ p, Derives .disjunction (ts.map (·.token)) p → p = q) ∧
      Malformed (parse "say \"hi") ∧
      ∀ p, ¬Derives .disjunction [.term ['a'], .closing] p := by
  intro text ts q
  have hts : tokens text.toList = .ok ts := by decide +kernel
  have hparse : parse text = .ok q := by
    rw [parse_of_tokens hts]
    rfl
  obtain ⟨-, hgrammar, hunique, -⟩ := parse_grammar text
  have hq := ((hgrammar ts hts).2 (by decide) q).mp hparse
  have hopen : ¬Even ("say \"hi".toList.count '"') := by decide
  have hclosing : tokens "a)".toList = .ok [⟨.term ['a'], 0⟩, ⟨.closing, 1⟩] := by decide +kernel
  have herror : parse "a)" = .error (.malformed 1 (.unexpected .close)) := by
    rw [parse_of_tokens hclosing]
    rfl
  refine ⟨hts, hq, fun p hp => hunique _ p q hp hq, (parse_grammar _).2.2.2.mpr (.inl hopen),
    fun p hp => ?_⟩
  have hread := (((parse_grammar "a)").2.1 _ hclosing).2 (by decide) p).mpr hp
  rw [herror] at hread
  cases hread

end ReadLater.Query
