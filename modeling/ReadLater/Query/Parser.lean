import ReadLater.Query.Token
import ReadLater.Query.Tree
import ReadLater.Text.Split

/-!
# Reading queries

Tokens are read from left to right. AND binds tighter than OR and may be left out, and chains of
either associate to the left. The state holds what stands to the left at each open parenthesis.
-/

namespace ReadLater.Query

def isFieldName : List Char → Bool
  | [] => false
  | c :: rest =>
    Text.isAsciiLetter c &&
      rest.all fun d => Text.isAsciiLetter d || Text.isAsciiDigit d || d = '_'

/-- The text between surrounding double quotes, if there are any. -/
def unquote? : List Char → Option (List Char)
  | '"' :: rest => if rest.getLast? = some '"' then some rest.dropLast else none
  | _ => none

/-- The operand of a tag as it was written. -/
def operandOf (value : List Char) : Operand :=
  let (inner, quoted) := match unquote? value with
    | some inner => (inner, true)
    | none => (value, false)
  if inner.isEmpty then .empty else .literal (.string (String.ofList inner)) quoted

/-- A field name before a colon makes a tag, unless the word is an address. -/
def leaf (word : List Char) : Query :=
  let free :=
    match unquote? word with
    | some inner => text (String.ofList inner) true
    | none => text (String.ofList word) false
  match Text.splitOnce? ':' word with
  | some (name, value) =>
    if isFieldName name && !(['/', '/'].isPrefixOf value) then
      .tag ⟨.named (String.ofList name) false, operandOf value⟩
    else free
  | none => free

/-- Joins with what stands to the left, if anything does. -/
def joinLeft (connective : Connective) (left : Option Query) (right : Query) : Query :=
  match left with
  | some l => .logical connective l right
  | none => right

def negate : Nat → Query → Query
  | 0, q => q
  | n + 1, q => .negation .word (negate n q)

/-- What stands to the left of an open parenthesis. -/
structure Enclosing where
  alternatives : Option Query
  conjunction : Option Query
  negations : Nat
  offset : Nat

/-- Either an operand is needed, or an operand of the current conjunction is complete. -/
inductive Phase
  | operand (opened : Bool) (conjunction : Option Query) (negations : Nat)
  | operator (conjunction : Query)

structure ParserState where
  enclosing : List Enclosing
  alternatives : Option Query
  phase : Phase

namespace ParserState

def initial : ParserState := ⟨[], none, .operand false none 0⟩

/-- The operand that a token begins or is, after an incomplete conjunction. -/
def readOperand (s : ParserState) (opened : Bool) (conjunction : Option Query) (negations : Nat)
    (t : PlacedToken) : Except QueryError ParserState :=
  let complete (operand : Query) (s : ParserState) (conjunction : Option Query)
      (negations : Nat) : ParserState :=
    { s with phase := .operator (joinLeft .and conjunction (negate negations operand)) }
  match t.token with
  | .term word => .ok (complete (leaf word) s conjunction negations)
  | .not => .ok { s with phase := .operand false conjunction (negations + 1) }
  | .opening =>
    .ok ⟨⟨s.alternatives, conjunction, negations, t.offset⟩ :: s.enclosing, none,
      .operand true none 0⟩
  | .closing =>
    match opened, s.enclosing with
    | true, outer :: rest =>
      .ok (complete (.group .empty) ⟨rest, outer.alternatives, s.phase⟩ outer.conjunction
        outer.negations)
    | _, _ => .error (.malformed t.offset (.unexpected .close))
  | .and => .error (.malformed t.offset (.unexpected .and))
  | .or => .error (.malformed t.offset (.unexpected .or))

def step (s : ParserState) (t : PlacedToken) : Except QueryError ParserState :=
  match s.phase with
  | .operand opened conjunction negations => s.readOperand opened conjunction negations t
  | .operator conjunction =>
    match t.token with
    | .and => .ok { s with phase := .operand false (some conjunction) 0 }
    | .or =>
      .ok { s with
        alternatives := some (joinLeft .or s.alternatives conjunction)
        phase := .operand false none 0 }
    | .closing =>
      match s.enclosing with
      | [] => .error (.malformed t.offset (.unexpected .close))
      | outer :: rest =>
        let inner := Query.group (joinLeft .or s.alternatives conjunction)
        .ok ⟨rest, outer.alternatives,
          .operator (joinLeft .and outer.conjunction (negate outer.negations inner))⟩
    | _ => s.readOperand false (some conjunction) 0 t

/-- The tree at the end of the tokens, at the given offset. -/
def finish (s : ParserState) (stop : Nat) : Except QueryError Query :=
  match s.phase, s.enclosing with
  | .operand .., _ => .error (.malformed stop .unexpectedEnd)
  | .operator _, outer :: _ => .error (.malformed outer.offset .unclosedGroup)
  | .operator conjunction, [] => .ok (joinLeft .or s.alternatives conjunction)

end ParserState

/-- The tree of a list of tokens, which end at the offset `stop`. -/
def ofTokens (ts : List PlacedToken) (stop : Nat) : Except QueryError Query :=
  if ts.isEmpty then .ok .empty
  else do (← ts.foldlM ParserState.step .initial).finish stop

/-- The tree of a query text. A blank text is the empty query. -/
def parse (text : String) : Except QueryError Query := do
  ofTokens (← tokens text.toList) text.utf8ByteSize

end ReadLater.Query
