import ReadLater.Json.Fault
import ReadLater.Text.Bytes

/-!
# Readers

A reader takes characters off the front of a text, or finds a fault. Most faults stand just after
the first byte of the character that should not be there.
-/

namespace ReadLater.Json

/-- The part of a text that is left. -/
structure Source where
  rest : List Char
  /-- Bytes in front of the rest. -/
  offset : Nat
  /-- No loop over the rest takes more steps. -/
  bound : Nat
deriving DecidableEq, Repr

abbrev Reader := StateT Source (Except Fault)

/-- The source of a whole text; a loop takes at most two steps for a character. -/
def Source.ofText (text : String) : Source :=
  ⟨text.toList, 0, 2 * text.length + 2⟩

def isJsonBlank (c : Char) : Bool :=
  c = ' ' || c = '\n' || c = '\t' || c = '\r'

namespace Reader

def fail (cause : Cause) : Reader α := do
  throw ⟨cause, (← get).offset⟩

/-- Complains about the next character, or about the end of the text. -/
def unexpected (cause : Cause) : Reader α := do
  let s ← get
  throw ⟨cause, if s.rest.isEmpty then s.offset else s.offset + 1⟩

def peek : Reader (Option Char) := do
  return (← get).rest.head?

/-- Passes the next character. -/
def advance : Reader Unit :=
  modify fun s =>
    match s.rest with
    | [] => s
    | c :: rest => { s with rest, offset := s.offset + c.utf8Size }

/-- The longest run of characters of a class. -/
def takeWhile (p : Char → Bool) : Reader (List Char) := do
  let s ← get
  let run := s.rest.takeWhile p
  set { s with rest := s.rest.dropWhile p, offset := s.offset + Text.byteLength run }
  return run

/-- The next character that is not blank. -/
def next : Reader (Option Char) := do
  let _ ← takeWhile isJsonBlank
  peek

/-- Passes the letters of a word, the first of which was seen. -/
def word : List Char → Reader Unit
  | [] => return
  | c :: rest => do
    match ← peek with
    | none => fail .endOfValue
    | some d =>
      if d = c then
        advance
        word rest
      else unexpected .expectedIdentifier

/-- Repeats a step until it gives a result. -/
def iterate (step : σ → Reader (σ ⊕ α)) :
    Nat → σ → Source → Except Fault (α × Source)
  | 0, _, source => .error ⟨.endOfValue, source.offset⟩
  | fuel + 1, s, source =>
    match (step s).run source with
    | .error fault => .error fault
    | .ok (.inl s, source) => iterate step fuel s source
    | .ok (.inr a, source) => .ok (a, source)

/-- Repeats a step that takes characters until it gives a result. -/
def loop (step : σ → Reader (σ ⊕ α)) (start : σ) : Reader α :=
  fun source => iterate step source.bound start source

/-- Reads a whole text, after which only blanks may follow. -/
def whole (reader : Reader α) (text : String) : Except Fault α := do
  let ending : Reader α := do
    let a ← reader
    if (← next).isSome then unexpected .trailingCharacters
    return a
  return (← ending.run (.ofText text)).1

end Reader

end ReadLater.Json
