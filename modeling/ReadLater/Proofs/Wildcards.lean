import Mathlib.Data.List.Forall2
import Mathlib.Tactic.Lemma
import ReadLater.FullText.Pattern

/-!
# Matching wildcards

A scan goes back to the last run only. This loses no match: since that run each token took one
character, so whatever an earlier run could take more, the last run can take instead.
-/

namespace ReadLater.FullText

/-- The token can be laid over the piece. -/
def PatternToken.Covers : PatternToken → List Char → Prop
  | .char c, piece => piece = [c]
  | .one, piece => ∃ c, piece = [c]
  | .run, _ => True

/-- The value is cut into consecutive pieces, one for each token in order. -/
def Fits (tokens : List PatternToken) (value : List Char) : Prop :=
  ∃ pieces : List (List Char), value = pieces.flatten ∧
    List.Forall₂ PatternToken.Covers tokens pieces

section Fits

variable {c : Char} {t : PatternToken} {ts us : List PatternToken} {value : List Char}

lemma fits_nil : Fits [] value ↔ value = [] := by
  constructor
  · rintro ⟨pieces, rfl, hcovers⟩
    cases hcovers
    rfl
  · rintro rfl
    exact ⟨[], rfl, .nil⟩

lemma fits_cons : Fits (t :: ts) value ↔
    ∃ piece rest, value = piece ++ rest ∧ t.Covers piece ∧ Fits ts rest := by
  constructor
  · rintro ⟨pieces, rfl, hcovers⟩
    obtain ⟨piece, rest, ht, hts, rfl⟩ := List.forall₂_cons_left_iff.mp hcovers
    exact ⟨piece, rest.flatten, List.flatten_cons, ht, rest, rfl, hts⟩
  · rintro ⟨piece, _, rfl, ht, rest, rfl, hts⟩
    exact ⟨piece :: rest, List.flatten_cons.symm, .cons ht hts⟩

lemma fits_append : Fits (ts ++ us) value ↔
    ∃ left right, value = left ++ right ∧ Fits ts left ∧ Fits us right := by
  induction ts generalizing value with
  | nil =>
    constructor
    · intro h
      exact ⟨[], value, rfl, fits_nil.mpr rfl, h⟩
    · rintro ⟨left, right, rfl, hleft, hright⟩
      rw [fits_nil.mp hleft]
      exact hright
  | cons t ts ih =>
    rw [List.cons_append, fits_cons]
    constructor
    · rintro ⟨piece, rest, rfl, ht, hrest⟩
      obtain ⟨left, right, rfl, hleft, hright⟩ := ih.mp hrest
      refine ⟨piece ++ left, right, (List.append_assoc _ _ _).symm, ?_, hright⟩
      exact fits_cons.mpr ⟨piece, left, rfl, ht, hleft⟩
    · rintro ⟨_, right, rfl, hleft, hright⟩
      obtain ⟨piece, left, rfl, ht, hleft⟩ := fits_cons.mp hleft
      refine ⟨piece, left ++ right, List.append_assoc _ _ _, ht, ?_⟩
      exact ih.mpr ⟨left, right, rfl, hleft, hright⟩

lemma fits_run : Fits (.run :: ts) value ↔ ∃ rest, rest <:+ value ∧ Fits ts rest := by
  rw [fits_cons]
  constructor
  · rintro ⟨piece, rest, rfl, -, hrest⟩
    exact ⟨rest, List.suffix_append piece rest, hrest⟩
  · rintro ⟨rest, ⟨piece, rfl⟩, hrest⟩
    exact ⟨piece, rest, rfl, trivial, hrest⟩

lemma covers_of_takes (h : t.takes c = true) {piece : List Char} :
    t.Covers piece → ∃ d, piece = [d] := by
  intro hcovers
  cases t with
  | char d => exact ⟨d, hcovers⟩
  | one => exact hcovers
  | run => cases h

lemma exists_of_fits_takes (h : t.takes c = true) (hfits : Fits (t :: ts) value) :
    ∃ d rest, value = d :: rest ∧ Fits ts rest := by
  obtain ⟨piece, rest, rfl, ht, hrest⟩ := fits_cons.mp hfits
  obtain ⟨d, rfl⟩ := covers_of_takes h ht
  exact ⟨d, rest, rfl, hrest⟩

lemma fits_takes (h : t.takes c = true) : Fits (t :: ts) (c :: value) ↔ Fits ts value := by
  constructor
  · intro hfits
    obtain ⟨d, rest, heq, hrest⟩ := exists_of_fits_takes h hfits
    cases heq
    exact hrest
  · intro hfits
    refine fits_cons.mpr ⟨[c], value, rfl, ?_, hfits⟩
    cases t with
    | char d => rw [PatternToken.Covers, beq_iff_eq.mp h]
    | one => exact ⟨c, rfl⟩
    | run => cases h

lemma not_fits_of_not_takes (hrun : t ≠ .run) (h : ¬t.takes c = true) :
    ¬Fits (t :: ts) (c :: value) := by
  intro hfits
  obtain ⟨piece, rest, heq, ht, -⟩ := fits_cons.mp hfits
  cases t with
  | char d =>
    rw [PatternToken.Covers] at ht
    rw [ht, List.singleton_append, List.cons.injEq] at heq
    exact h (beq_iff_eq.mpr heq.1.symm)
  | one => exact h rfl
  | run => exact hrun rfl

lemma fits_empty_iff : Fits ts [] ↔ ts.all (· == .run) = true := by
  induction ts with
  | nil => simp [fits_nil]
  | cons t ts ih =>
    rw [List.all_cons, Bool.and_eq_true, ← ih, beq_iff_eq, fits_cons]
    constructor
    · rintro ⟨piece, rest, heq, ht, hrest⟩
      obtain ⟨rfl, rfl⟩ := List.append_eq_nil_iff.mp heq.symm
      refine ⟨?_, hrest⟩
      cases t with
      | char d => cases ht
      | one => obtain ⟨d, hd⟩ := ht; cases hd
      | run => rfl
    · rintro ⟨rfl, hts⟩
      exact ⟨[], [], rfl, trivial, hts⟩

end Fits

/-! ## What a scan still looks for -/

/-- A match that lets the run before a trail take more also leaves less of the value to the tokens
at the end of the trail. -/
lemma Trails.exists_fits {vs value rest : List Char} {ts tokens : List PatternToken}
    (h : Trails vs ts value tokens) (hrest : rest <:+ vs) (hless : rest.length < vs.length)
    (hfits : Fits ts rest) :
    ∃ left, left <:+ value ∧ left.length < value.length ∧ Fits tokens left := by
  induction h with
  | start => exact ⟨rest, hrest, hless, hfits⟩
  | @next c value t tokens _ htakes ih =>
    obtain ⟨left, hleft, hshort, hfits⟩ := ih
    have hleft : left <:+ value := by
      apply (List.suffix_cons_iff.mp hleft).resolve_left
      rintro rfl
      omega
    obtain ⟨d, rest, rfl, hrest⟩ := exists_of_fits_takes htakes hfits
    refine ⟨rest, (List.suffix_cons d rest).trans hleft, ?_, hrest⟩
    have hlength := hleft.length_le
    rw [List.length_cons] at hlength
    omega

namespace PassedRun

variable {value : List Char} {tokens : List PatternToken}

/-- There is a match in which the passed run takes more than it has so far. -/
def Finds (r : PassedRun value tokens) : Prop :=
  ∃ rest, rest <:+ r.rest ∧ rest.length < r.rest.length ∧ Fits r.behind rest

/-- The last run finds all that an earlier one would find. -/
lemma Finds.fits_run {r : PassedRun value (.run :: tokens)} (h : r.Finds) :
    Fits (.run :: tokens) value := by
  obtain ⟨rest, hrest, hless, hfits⟩ := h
  obtain ⟨left, hleft, -, hfits⟩ := r.trails.exists_fits hrest hless hfits
  obtain ⟨right, hright, hfits⟩ := FullText.fits_run.mp hfits
  exact FullText.fits_run.mpr ⟨right, hright.trans hleft, hfits⟩

lemma not_finds_of_empty (r : PassedRun [] tokens) : ¬r.Finds := by
  rintro ⟨rest, hrest, hless, hfits⟩
  obtain ⟨left, -, hshort, -⟩ := r.trails.exists_fits hrest hless hfits
  exact Nat.not_lt_zero _ hshort

lemma finds_next {c : Char} {t : PatternToken} (h : t.takes c = true)
    (r : PassedRun (c :: value) (t :: tokens)) : (r.next h).Finds ↔ r.Finds := Iff.rfl

lemma finds_here : (here value tokens).Finds ↔
    ∃ rest, rest <:+ value ∧ rest.length < value.length ∧ Fits tokens rest := Iff.rfl

lemma fits_or_finds_here :
    Fits tokens value ∨ (here value tokens).Finds ↔ Fits (.run :: tokens) value := by
  rw [FullText.fits_run, finds_here]
  constructor
  · rintro (hfits | ⟨rest, hrest, -, hfits⟩)
    · exact ⟨value, List.suffix_rfl, hfits⟩
    · exact ⟨rest, hrest, hfits⟩
  · rintro ⟨rest, hrest, hfits⟩
    rcases Nat.lt_or_ge rest.length value.length with hless | hall
    · exact .inr ⟨rest, hrest, hless, hfits⟩
    · rw [hrest.eq_of_length_le hall] at hfits
      exact .inl hfits

lemma finds_iff_fits_tail (r : PassedRun value tokens) :
    r.Finds ↔ r.rest ≠ [] ∧ Fits (.run :: r.behind) r.rest.tail := by
  rw [FullText.fits_run]
  constructor
  · rintro ⟨rest, hrest, hless, hfits⟩
    cases hr : r.rest with
    | nil => simp [hr] at hless
    | cons c tail =>
      rw [hr] at hrest hless
      refine ⟨List.cons_ne_nil c tail, rest, ?_, hfits⟩
      apply (List.suffix_cons_iff.mp hrest).resolve_left
      rintro rfl
      omega
  · rintro ⟨hne, rest, hrest, hfits⟩
    have hlength := hrest.length_le
    have hpos := List.length_pos_iff.mpr hne
    rw [List.length_tail] at hlength
    exact ⟨rest, hrest.trans (List.tail_suffix _), by omega, hfits⟩

end PassedRun

namespace Scan

/-- There is a match of what is left, perhaps after the last run has taken more. -/
def Finds (s : Scan) : Prop :=
  Fits s.tokens s.value ∨ ∃ r, s.passed = some r ∧ r.Finds

lemma finds_start (value : List Char) (tokens : List PatternToken) :
    (start value tokens).Finds ↔ Fits tokens value := by
  simp [Finds, start]

/-- What a round says of the scan: it gives the answer, or it keeps what there is to find. -/
def Settles (s : Scan) : Bool ⊕ Scan → Prop
  | .inl answer => answer = true ↔ s.Finds
  | .inr t => t.Finds ↔ s.Finds

lemma settles_retry {c : Char} {value : List Char} {tokens : List PatternToken}
    {passed : Option (PassedRun (c :: value) tokens)} (h : ¬Fits tokens (c :: value)) :
    Settles ⟨c :: value, tokens, passed⟩ (retry passed) := by
  cases passed with
  | none => simp [Settles, retry, Finds, h]
  | some r =>
    have hne : r.rest ≠ [] := by
      have hlength := r.trails.length_le.1
      rintro hnil
      simp [hnil] at hlength
    have hretried := @PassedRun.fits_or_finds_here r.rest.tail r.behind
    simp only [Settles, retry, Finds, Option.some.injEq, exists_eq_left', h, false_or]
    rw [hretried, r.finds_iff_fits_tail]
    exact (and_iff_right hne).symm

theorem settles_step (s : Scan) : s.Settles s.step := by
  unfold step
  split
  · -- at the end of the value no run can take more
    rename_i tokens passed
    have hnone : ¬∃ r, passed = some r ∧ r.Finds := by
      rintro ⟨r, -, hr⟩
      exact r.not_finds_of_empty hr
    simp only [Settles, Finds, hnone, or_false]
    exact fits_empty_iff.symm
  · apply settles_retry
    simp [fits_nil]
  · rename_i c value t tokens passed
    split
    · rename_i htakes
      simp only [Settles, Finds, fits_takes htakes]
      apply or_congr_right
      cases passed with
      | none => simp
      | some r => simp [r.finds_next htakes]
    · rename_i htakes
      split
      · -- an earlier run is forgotten
        rename_i hrun
        subst hrun
        have hlast : (∃ r, passed = some r ∧ r.Finds) → Fits (.run :: tokens) (c :: value) := by
          rintro ⟨r, -, hr⟩
          exact hr.fits_run
        simp only [Settles, Finds, Option.some.injEq, exists_eq_left']
        rw [PassedRun.fits_or_finds_here]
        exact (or_iff_left_of_imp hlast).symm
      · rename_i hrun
        exact settles_retry (not_fits_of_not_takes hrun htakes)

lemma run_of_answer {s : Scan} {answer : Bool} (h : s.step = .inl answer) : s.run = answer := by
  unfold run
  split
  · rename_i b hb
    rw [h] at hb
    exact (Sum.inl.inj hb).symm
  · rename_i t ht
    rw [h] at ht
    cases ht

lemma run_of_next {s t : Scan} (h : s.step = .inr t) : s.run = t.run := by
  rw [run]
  split
  · rename_i b hb
    rw [h] at hb
    cases hb
  · rename_i u hu
    rw [h] at hu
    rw [Sum.inr.inj hu]

theorem run_iff (s : Scan) : s.run = true ↔ s.Finds := by
  induction s using run.induct with
  | case1 s answer hstep =>
    have hsettles := s.settles_step
    rw [hstep] at hsettles
    rw [run_of_answer hstep]
    exact hsettles
  | case2 s t hstep ih =>
    have hsettles := s.settles_step
    rw [hstep] at hsettles
    rw [run_of_next hstep, ih]
    exact hsettles

/-- The answer after some rounds, or where the scan stands. -/
def rounds : Nat → Scan → Bool ⊕ Scan
  | 0, s => .inr s
  | n + 1, s =>
    match s.step with
    | .inl answer => .inl answer
    | .inr t => rounds n t

theorem exists_rounds (s : Scan) : ∃ n ≤ s.weight + 1, rounds n s = .inl s.run := by
  induction s using run.induct with
  | case1 s answer hstep =>
    refine ⟨1, Nat.le_add_left _ _, ?_⟩
    rw [rounds, hstep, run_of_answer hstep]
  | case2 s t hstep ih =>
    obtain ⟨n, hn, hrounds⟩ := ih
    refine ⟨n + 1, ?_, ?_⟩
    · have hless := weight_lt_of_step hstep
      omega
    · rw [rounds, hstep, run_of_next hstep]
      exact hrounds

end Scan

/-! ## Reading a pattern -/

/-- `Denotes pattern tokens`: the characters of the pattern stand for the tokens. -/
inductive Denotes : List Char → List PatternToken → Prop
  | nil : Denotes [] []
  | percent {cs ts} : Denotes cs ts → Denotes ('%' :: cs) (.run :: ts)
  | underscore {cs ts} : Denotes cs ts → Denotes ('_' :: cs) (.one :: ts)
  | escaped {c cs ts} : Denotes cs ts → Denotes ('\\' :: c :: cs) (.char c :: ts)
  | trailing : Denotes ['\\'] [.char '\\']
  | plain {c cs ts} :
      c ∉ ['%', '_', '\\'] → Denotes cs ts → Denotes (c :: cs) (.char c :: ts)

lemma patternTokens_plain {c : Char} (h : c ∉ ['%', '_', '\\']) (cs : List Char) :
    patternTokens (c :: cs) = .char c :: patternTokens cs := by
  simp only [List.mem_cons, List.not_mem_nil, or_false, not_or] at h
  obtain ⟨hpercent, hunderscore, hbackslash⟩ := h
  rw [patternTokens, if_neg hpercent, if_neg hunderscore]
  · exact fun heq _ => hbackslash heq
  · exact fun _ _ heq _ => hbackslash heq

lemma denotes_patternTokens (cs : List Char) : Denotes cs (patternTokens cs) := by
  induction cs using patternTokens.induct with
  | case1 => exact .nil
  | case2 => exact .trailing
  | case3 c rest ih => exact .escaped ih
  | case4 c rest hsingle hescape ih =>
    by_cases hpercent : c = '%'
    · subst hpercent
      exact .percent ih
    · by_cases hunderscore : c = '_'
      · subst hunderscore
        exact .underscore ih
      · have hplain : c ∉ ['%', '_', '\\'] := by
          have hbackslash : c ≠ '\\' := by
            rintro rfl
            cases rest with
            | nil => exact hsingle rfl rfl
            | cons d rest => exact hescape d rest rfl rfl
          simp [hpercent, hunderscore, hbackslash]
        rw [patternTokens_plain hplain]
        exact .plain hplain ih

lemma Denotes.eq_patternTokens {cs : List Char} {ts : List PatternToken} (h : Denotes cs ts) :
    ts = patternTokens cs := by
  induction h with
  | nil => rfl
  | percent _ ih => rw [ih]; rfl
  | underscore _ ih => rw [ih]; rfl
  | escaped _ ih => rw [ih]; rfl
  | trailing => rfl
  | plain hplain _ ih => rw [ih, patternTokens_plain hplain]

lemma denotes_iff {cs : List Char} {ts : List PatternToken} :
    Denotes cs ts ↔ ts = patternTokens cs := by
  constructor
  · exact Denotes.eq_patternTokens
  · rintro rfl
    exact denotes_patternTokens cs

lemma matchesTokens_iff (value : List Char) (tokens : List PatternToken) :
    matchesTokens value tokens = true ↔ Fits tokens value :=
  (Scan.run_iff _).trans (Scan.finds_start value tokens)

lemma iLike_iff (value pattern : String) : iLike value pattern = true ↔
    Fits (patternTokens (Text.lower pattern).toList) (Text.lower value).toList := by
  rw [iLike, matchesTokens_iff, Text.lower, Text.lower, String.toList_ofList, String.toList_ofList]

/-- A scan ends, after a number of rounds that its start bounds, and it finds a match just if the
value can be cut into pieces for the tokens. In this way the lower case of a value is matched with
that of a pattern, which stands for just one list of tokens. -/
theorem scan_finds_fits :
    (∀ (value : List Char) (tokens : List PatternToken),
      let room := tokens.length + 1 + value.length
      (∃ n ≤ room * room + value.length + 1,
        Scan.rounds n (.start value tokens) = .inl (matchesTokens value tokens)) ∧
      (matchesTokens value tokens = true ↔ Fits tokens value)) ∧
    ∀ value pattern : String, ∃ tokens : List PatternToken,
      (∀ ts, Denotes (Text.lower pattern).toList ts ↔ ts = tokens) ∧
      (iLike value pattern = true ↔ Fits tokens (Text.lower value).toList) := by
  constructor
  · intro value tokens room
    exact ⟨(Scan.start value tokens).exists_rounds, matchesTokens_iff value tokens⟩
  · intro value pattern
    exact ⟨_, fun ts => denotes_iff, iLike_iff value pattern⟩

/-- The last run is moved on twice, and the first one not at all. -/
example : iLike "Xab-abab_" "x%a%b\\_" = true ∧ iLike "Xab-ababc" "x%a%b\\_" = false := by
  decide +kernel

end ReadLater.FullText
