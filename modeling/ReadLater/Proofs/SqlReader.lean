import ReadLater.Proofs.SqlTokens

/-!
# Reading formulas in SQL

A reader of the logical structure of conditions in SQL. `NOT` binds tighter than `AND`, and `AND`
tighter than `OR`; connectives of one kind group to the left. A parenthesis where a formula may
begin groups one and leaves no trace. All else is part of an atom, which ends at the first
connective or closing parenthesis outside of its own parentheses, except for the `AND` of a
`BETWEEN`.
-/

namespace ReadLater.Sql

inductive TokenKind
  | opening
  | closing
  | and
  | or
  | not
  | between
  | other
deriving DecidableEq, Repr

def TokenKind.ofToken (t : String) : TokenKind :=
  if t = "(" then .opening
  else if t = ")" then .closing
  else if t = "AND" then .and
  else if t = "OR" then .or
  else if t = "NOT" then .not
  else if t = "BETWEEN" then .between
  else .other

inductive Formula
  | atom (ts : List String)
  | and (left right : Formula)
  | or (left right : Formula)
  | not (inner : Formula)
deriving DecidableEq

/-- What waits for the formula on its right. -/
inductive Frame
  | opening
  | or (left : Formula)
  | and (left : Formula)
  | not

namespace Frame

def precedence : Frame → Nat
  | .opening => 0
  | .or _ => 1
  | .and _ => 2
  | .not => 3

def apply : Frame → Formula → Formula
  | .opening, f => f
  | .or left, f => .or left f
  | .and left, f => .and left f
  | .not, f => .not f

/-- Completes all that binds at least as tight as a level. -/
def reduce (level : Nat) (f : Formula) : List Frame → Formula × List Frame
  | [] => (f, [])
  | frame :: rest =>
    if level ≤ frame.precedence then reduce level (frame.apply f) rest else (f, frame :: rest)

end Frame

/-- A formula is to begin, an atom may go on, or a group has ended. -/
inductive Phase
  | operand
  | atom (ts : List String) (depth : Nat) (between : Bool)
  | complete (f : Formula)

structure Reading where
  frames : List Frame
  phase : Phase

namespace Reading

/-- The depth of an atom, and whether it waits for the `AND` of a `BETWEEN`, after a token more;
none if the token is not part of it. -/
def goOn : Nat × Bool → TokenKind → Option (Nat × Bool)
  | (depth, between), .opening => some (depth + 1, between)
  | (0, _), .closing => none
  | (depth + 1, between), .closing => some (depth, between)
  | (0, false), .and => none
  | (0, true), .and => some (0, false)
  | (0, _), .or => none
  | (0, _), .between => some (0, true)
  | state, _ => some state

/-- What a connective or a closing parenthesis makes of a formula on its left. -/
def connect (frames : List Frame) (f : Formula) : TokenKind → Option Reading
  | .and =>
    let (f, rest) := Frame.reduce 2 f frames
    some ⟨.and f :: rest, .operand⟩
  | .or =>
    let (f, rest) := Frame.reduce 1 f frames
    some ⟨.or f :: rest, .operand⟩
  | .closing =>
    match Frame.reduce 1 f frames with
    | (f, .opening :: rest) => some ⟨rest, .complete f⟩
    | _ => none
  | _ => none

def step (s : Reading) (t : String) : Option Reading :=
  match s.phase with
  | .operand =>
    match TokenKind.ofToken t with
    | .opening => some ⟨.opening :: s.frames, .operand⟩
    | .not => some ⟨.not :: s.frames, .operand⟩
    | .other => some ⟨s.frames, .atom [t] 0 false⟩
    | _ => none
  | .atom ts depth between =>
    match goOn (depth, between) (TokenKind.ofToken t) with
    | some (depth, between) => some ⟨s.frames, .atom (t :: ts) depth between⟩
    | none => connect s.frames (.atom ts.reverse) (TokenKind.ofToken t)
  | .complete f => connect s.frames f (TokenKind.ofToken t)

def run (s : Reading) (ts : List String) : Option Reading :=
  ts.foldlM step s

/-- The formula that may end here. -/
def formula? (s : Reading) : Option Formula :=
  match s.phase with
  | .atom ts 0 false => some (.atom ts.reverse)
  | .complete f => some f
  | _ => none

end Reading

/-- The formula that the tokens are. -/
def formula? (ts : List String) : Option Formula := do
  let s ← Reading.run ⟨[], .operand⟩ ts
  let f ← s.formula?
  match Frame.reduce 1 f s.frames with
  | (f, []) => some f
  | _ => none

namespace Frame

/-- The frames bind less tight than a level, as far as they can be completed next. -/
def Below (level : Nat) (frames : List Frame) : Prop :=
  ∀ frame ∈ frames.head?, frame.precedence < level

lemma reduce_of_below {level : Nat} {frames : List Frame} (h : Below level frames) (f : Formula) :
    reduce level f frames = (f, frames) := by
  cases frames with
  | nil => rfl
  | cons frame rest =>
    rw [reduce, if_neg (Nat.not_le.mpr (h frame rfl))]

lemma reduce_append {level : Nat} {inner : List Frame}
    (h : ∀ frame ∈ inner, level ≤ frame.precedence) (f : Formula) (outer : List Frame) :
    reduce level f (inner ++ outer) =
      reduce level (inner.foldl (fun f frame => frame.apply f) f) outer := by
  induction inner generalizing f with
  | nil => rfl
  | cons frame rest ih =>
    obtain ⟨hframe, hrest⟩ := List.forall_mem_cons.mp h
    rw [List.cons_append, reduce, if_pos hframe, ih hrest, List.foldl_cons]

end Frame

/-- Where only looser frames wait, the tokens read as the formula, and all that is left to complete
of it binds at least as tight as the level. -/
def Reads (ts : List String) (f : Formula) (level : Nat) : Prop :=
  ∀ outer, Frame.Below level outer → ∃ s g inner, Reading.run ⟨outer, .operand⟩ ts = some s ∧
    s.formula? = some g ∧ s.frames = inner ++ outer ∧
    (∀ frame ∈ inner, level ≤ frame.precedence) ∧
    inner.foldl (fun f frame => frame.apply f) g = f

variable {ts us : List String} {f g : Formula} {level : Nat}

lemma Reads.mono (h : Reads ts f level) {looser : Nat} (hle : looser ≤ level) :
    Reads ts f looser := by
  intro outer houter
  obtain ⟨s, g, inner, hrun, hformula, hframes, hinner, hfold⟩ :=
    h outer fun frame hframe => Nat.lt_of_lt_of_le (houter frame hframe) hle
  exact ⟨s, g, inner, hrun, hformula, hframes,
    fun frame hframe => Nat.le_trans hle (hinner frame hframe), hfold⟩

lemma Reading.step_of_formula {s : Reading} (h : s.formula? = some f) {t : String}
    (ht : TokenKind.ofToken t = .and ∨ TokenKind.ofToken t = .or ∨
      TokenKind.ofToken t = .closing) :
    s.step t = connect s.frames f (TokenKind.ofToken t) := by
  obtain ⟨frames, phase⟩ := s
  cases phase with
  | operand => cases h
  | complete f =>
    cases h
    rfl
  | atom ts depth between =>
    cases depth with
    | succ depth => cases h
    | zero =>
      cases between with
      | true => cases h
      | false =>
        cases h
        rcases ht with hk | hk | hk <;> simp only [step, hk, goOn]

lemma Reading.run_cons {s s' : Reading} {t : String} (h : s.step t = some s')
    (ts : List String) : s.run (t :: ts) = s'.run ts := by
  rw [run, List.foldlM_cons, h]
  rfl

lemma Reading.run_append {s s' : Reading} (h : s.run ts = some s') (us : List String) :
    s.run (ts ++ us) = s'.run us := by
  unfold run at h ⊢
  rw [List.foldlM_append, h]
  rfl

lemma Reads.group (h : Reads ts f 1) : Reads ("(" :: (ts ++ [")"])) f 4 := by
  intro outer _
  have hopening : Frame.Below 1 (.opening :: outer) := by
    rintro _ ⟨⟩
    exact Nat.zero_lt_one
  obtain ⟨s, g, inner, hrun, hformula, hframes, hinner, hfold⟩ := h _ hopening
  have hopen : Reading.step ⟨outer, .operand⟩ "(" = some ⟨.opening :: outer, .operand⟩ := rfl
  have hclose : s.step ")" = some ⟨outer, .complete f⟩ := by
    rw [Reading.step_of_formula hformula (.inr (.inr rfl)), hframes]
    change Reading.connect _ _ .closing = _
    rw [Reading.connect, Frame.reduce_append hinner, hfold, Frame.reduce_of_below hopening]
  refine ⟨⟨outer, .complete f⟩, f, [], ?_, rfl, rfl, by simp, rfl⟩
  rw [Reading.run_cons hopen, Reading.run_append hrun, Reading.run_cons hclose]
  rfl

lemma Reads.not (h : Reads ts f 4) : Reads ("NOT" :: ts) (.not f) 3 := by
  intro outer _
  have hnot : Frame.Below 4 (.not :: outer) := by
    rintro _ ⟨⟩
    exact Nat.lt_succ_self 3
  obtain ⟨s, g, inner, hrun, hformula, hframes, hinner, hfold⟩ := h _ hnot
  have hstep : Reading.step ⟨outer, .operand⟩ "NOT" = some ⟨.not :: outer, .operand⟩ := rfl
  refine ⟨s, g, inner ++ [.not], ?_, hformula, by rw [hframes]; simp, fun frame hframe => ?_, ?_⟩
  · rw [Reading.run_cons hstep, hrun]
  · rcases List.mem_append.mp hframe with hin | hlast
    · exact Nat.le_of_succ_le (hinner frame hin)
    · rw [List.mem_singleton.mp hlast]
      exact Nat.le_refl 3
  · rw [List.foldl_append, hfold]
    rfl

/-- A connective takes the formula before it as its left operand, and what binds tighter after it as
its right operand. -/
lemma Reads.connective (frame : Formula → Frame) (hl : Reads ts f level)
    (hr : Reads us g (level + 1)) {t : String} (ht : TokenKind.ofToken t = .and ∨
      TokenKind.ofToken t = .or ∨ TokenKind.ofToken t = .closing)
    (hprecedence : (frame f).precedence = level)
    (hconnect : ∀ frames g, Reading.connect frames g (TokenKind.ofToken t) =
      some ⟨frame (Frame.reduce level g frames).1 :: (Frame.reduce level g frames).2, .operand⟩) :
    Reads (ts ++ t :: us) ((frame f).apply g) level := by
  intro outer houter
  obtain ⟨s, h, inner, hrun, hformula, hframes, hinner, hfold⟩ := hl outer houter
  have hstep : s.step t = some ⟨frame f :: outer, .operand⟩ := by
    rw [Reading.step_of_formula hformula ht, hconnect, hframes, Frame.reduce_append hinner, hfold,
      Frame.reduce_of_below houter]
  have hbelow : Frame.Below (level + 1) (frame f :: outer) := by
    rintro _ ⟨⟩
    exact Nat.lt_succ_of_le (Nat.le_of_eq hprecedence)
  obtain ⟨s', h', inner', hrun', hformula', hframes', hinner', hfold'⟩ := hr _ hbelow
  refine ⟨s', h', inner' ++ [frame f], ?_, hformula', by rw [hframes']; simp,
    fun next hnext => ?_, ?_⟩
  · rw [Reading.run_append hrun, Reading.run_cons hstep, hrun']
  · rcases List.mem_append.mp hnext with hin | hlast
    · exact Nat.le_of_succ_le (hinner' next hin)
    · rw [List.mem_singleton.mp hlast, hprecedence]
  · rw [List.foldl_append, hfold']
    rfl

lemma Reads.and (hl : Reads ts f 2) (hr : Reads us g 3) :
    Reads (ts ++ "AND" :: us) (.and f g) 2 :=
  hl.connective .and hr (.inl rfl) rfl fun _ _ => rfl

lemma Reads.or (hl : Reads ts f 1) (hr : Reads us g 2) : Reads (ts ++ "OR" :: us) (.or f g) 1 :=
  hl.connective .or hr (.inr (.inl rfl)) rfl fun _ _ => rfl

/-- The tokens stay within an atom, and leave nothing of it open. -/
def Balanced (ts : List String) : Prop :=
  (ts.map TokenKind.ofToken).foldlM Reading.goOn (0, false) = some (0, false)

lemma Reading.run_atom {outer : List Frame} {word : List String} {depth depth' : Nat}
    {between between' : Bool}
    (h : (ts.map TokenKind.ofToken).foldlM goOn (depth, between) = some (depth', between')) :
    run ⟨outer, .atom word depth between⟩ ts =
      some ⟨outer, .atom (ts.reverse ++ word) depth' between'⟩ := by
  induction ts generalizing word depth between with
  | nil =>
    cases h
    rfl
  | cons t ts ih =>
    rw [List.map_cons, List.foldlM_cons] at h
    cases hgo : goOn (depth, between) (TokenKind.ofToken t) with
    | none => simp [hgo, bind, Option.bind] at h
    | some state =>
      rw [hgo] at h
      have hstep : step ⟨outer, .atom word depth between⟩ t =
          some ⟨outer, .atom (t :: word) state.1 state.2⟩ := by simp only [step, hgo]
      rw [run_cons hstep, ih h, List.reverse_cons, List.append_assoc, List.singleton_append]

lemma Reads.atom {t : String} (ht : TokenKind.ofToken t = .other) (hts : Balanced ts) :
    Reads (t :: ts) (.atom (t :: ts)) 4 := by
  intro outer _
  have hstep : Reading.step ⟨outer, .operand⟩ t = some ⟨outer, .atom [t] 0 false⟩ := by
    simp only [Reading.step, ht]
  refine ⟨⟨outer, .atom (ts.reverse ++ [t]) 0 false⟩, .atom (t :: ts), [], ?_, ?_, rfl, by simp,
    rfl⟩
  · rw [Reading.run_cons hstep, Reading.run_atom hts]
  · simp [Reading.formula?]

theorem formula?_of_reads (h : Reads ts f 1) : formula? ts = some f := by
  obtain ⟨s, g, inner, hrun, hformula, hframes, hinner, hfold⟩ := h [] (by simp [Frame.Below])
  simp only [formula?, hrun, hformula, hframes, bind, Option.bind, Frame.reduce_append hinner,
    hfold]
  rfl

example : formula? ["a", "OR", "NOT", "b", "AND", "c", "BETWEEN", "1", "AND", "2"] =
    some (.or (.atom ["a"])
      (.and (.not (.atom ["b"])) (.atom ["c", "BETWEEN", "1", "AND", "2"]))) := by
  decide

end ReadLater.Sql
