import ReadLater.Text.LetterCase

/-!
# Wildcard patterns

Patterns of the operator ILIKE. A percent sign stands for any run of characters, an underscore for
any one character, and a backslash makes the next character stand for itself. A value is matched
greedily: a run takes as little as it can, and a mismatch goes back to the last run only.
-/

namespace ReadLater.FullText

inductive PatternToken
  | char (c : Char)
  | one
  | run
deriving DecidableEq, Repr

def patternTokens : List Char → List PatternToken
  | [] => []
  | ['\\'] => [.char '\\']
  | '\\' :: c :: rest => .char c :: patternTokens rest
  | c :: rest =>
    (if c = '%' then .run else if c = '_' then .one else .char c) :: patternTokens rest

/-- The token takes just this character. What a run takes is left open when the scan passes it. -/
def PatternToken.takes : PatternToken → Char → Bool
  | .char d, c => d == c
  | .one, _ => true
  | .run, _ => false

/-! ## Scanning a value -/

/-- `Trails vs ts value tokens`: from `vs` and `ts` on, each token took a character until `value`
and `tokens` were left. -/
inductive Trails (vs : List Char) (ts : List PatternToken) : List Char → List PatternToken → Prop
  | start : Trails vs ts vs ts
  | next {c value t tokens} :
      Trails vs ts (c :: value) (t :: tokens) → t.takes c = true → Trails vs ts value tokens

theorem Trails.length_le {vs value : List Char} {ts tokens : List PatternToken}
    (h : Trails vs ts value tokens) :
    value.length ≤ vs.length ∧ tokens.length ≤ ts.length := by
  induction h with
  | start => exact ⟨Nat.le_refl _, Nat.le_refl _⟩
  | next _ _ ih =>
    simp only [List.length_cons] at ih
    omega

/-- The last run that a scan has passed, with what was left of the value and of the tokens when the
run took no more. -/
structure PassedRun (value : List Char) (tokens : List PatternToken) where
  rest : List Char
  behind : List PatternToken
  trails : Trails rest behind value tokens

namespace PassedRun

def here (value : List Char) (tokens : List PatternToken) : PassedRun value tokens :=
  ⟨value, tokens, .start⟩

def next {c : Char} {value : List Char} {t : PatternToken} {tokens : List PatternToken}
    (h : t.takes c = true) (r : PassedRun (c :: value) (t :: tokens)) : PassedRun value tokens :=
  ⟨r.rest, r.behind, .next r.trails h⟩

end PassedRun

/-- What is left of the value and of the tokens. -/
structure Scan where
  value : List Char
  tokens : List PatternToken
  passed : Option (PassedRun value tokens)

namespace Scan

def start (value : List Char) (tokens : List PatternToken) : Scan :=
  ⟨value, tokens, none⟩

/-- After a mismatch the last run takes one more character. -/
def retry {value : List Char} {tokens : List PatternToken} :
    Option (PassedRun value tokens) → Bool ⊕ Scan
  | none => .inl false
  | some r => .inr ⟨r.rest.tail, r.behind, some (.here _ _)⟩

/-- One round of a scan, which gives an answer or goes on. -/
def step : Scan → Bool ⊕ Scan
  | ⟨[], tokens, _⟩ => .inl (tokens.all (· == .run))
  | ⟨_ :: _, [], passed⟩ => retry passed
  | ⟨c :: value, t :: tokens, passed⟩ =>
    if h : t.takes c then .inr ⟨value, tokens, passed.map (.next h)⟩
    else if t = .run then .inr ⟨c :: value, tokens, some (.here _ _)⟩
    else retry passed

/-- How far the scan can go back: what was left at the last run. -/
def room : Scan → Nat
  | ⟨value, tokens, none⟩ => tokens.length + 1 + value.length
  | ⟨_, _, some r⟩ => r.behind.length + r.rest.length

/-- A round uses up room, or else a character. -/
def weight (s : Scan) : Nat :=
  s.room * s.room + s.value.length

theorem weight_lt_of_room_lt {s t : Scan} (hvalue : t.value.length ≤ t.room)
    (hroom : t.room < s.room) : t.weight < s.weight := by
  have hsquare : (t.room + 1) * (t.room + 1) ≤ s.room * s.room := Nat.mul_le_mul hroom hroom
  simp only [Nat.add_mul, Nat.mul_add, Nat.mul_one, Nat.one_mul] at hsquare
  unfold weight
  omega

theorem weight_lt_of_retry {c : Char} {value : List Char} {tokens : List PatternToken}
    {passed : Option (PassedRun (c :: value) tokens)} {t : Scan} (h : retry passed = .inr t) :
    t.weight < weight ⟨c :: value, tokens, passed⟩ := by
  cases passed with
  | none => cases h
  | some r =>
    cases h
    obtain ⟨hvalue, -⟩ := r.trails.length_le
    rw [List.length_cons] at hvalue
    apply weight_lt_of_room_lt
    · exact Nat.le_add_left _ _
    · simp only [room, PassedRun.here, List.length_tail]
      omega

theorem weight_lt_of_step {s t : Scan} (h : s.step = .inr t) : t.weight < s.weight := by
  unfold step at h
  split at h
  · cases h
  · exact weight_lt_of_retry h
  · rename_i c value token tokens passed
    split at h
    · cases h
      cases passed with
      | none =>
        apply weight_lt_of_room_lt
        · exact Nat.le_add_left _ _
        · simp only [room, Option.map_none, List.length_cons]
          omega
      | some r =>
        simp only [weight, room, Option.map_some, PassedRun.next, List.length_cons]
        omega
    · split at h
      · -- behind this run there are fewer tokens than behind the one before it
        cases h
        apply weight_lt_of_room_lt
        · exact Nat.le_add_left _ _
        · cases passed with
          | none =>
            simp only [room, PassedRun.here, List.length_cons]
            omega
          | some r =>
            obtain ⟨hvalue, htokens⟩ := r.trails.length_le
            simp only [room, PassedRun.here, List.length_cons] at hvalue htokens ⊢
            omega
      · exact weight_lt_of_retry h

def run (s : Scan) : Bool :=
  match _h : s.step with
  | .inl answer => answer
  | .inr t => t.run
termination_by s.weight
decreasing_by exact weight_lt_of_step _h

end Scan

def matchesTokens (value : List Char) (tokens : List PatternToken) : Bool :=
  (Scan.start value tokens).run

/-- Match of a value with a pattern in any letter case. -/
def iLike (value pattern : String) : Bool :=
  matchesTokens (Text.lowerChars value.toList)
    (patternTokens (Text.lowerChars pattern.toList))

/-- A pattern that a text alone matches. -/
def escapePattern (cs : List Char) : List Char :=
  cs.flatMap fun c => if c = '\\' ∨ c = '%' ∨ c = '_' then ['\\', c] else [c]

end ReadLater.FullText
