import ReadLater.Json.Numeral
import ReadLater.Json.Strings

/-!
# Reading lists and objects

Elements are parted by commas, and so are members, of which each is a name, a colon and a value.
Values may be passed over however deep they are nested.
-/

namespace ReadLater.Json

namespace Reader

/-- Whether an element comes before the bracket that ends a list. -/
def hasElement (first : Bool) : Reader Bool := do
  match ← next with
  | none => fail .endOfList
  | some c =>
    if c = ']' then return false
    else if first then return true
    else if c = ',' then
      advance
      match ← next with
      | none => fail .endOfValue
      | some d => if d = ']' then unexpected .trailingComma else return true
    else unexpected .expectedListCommaOrEnd

/-- One more element of a list, of which `before` were read, the last one first. -/
def elementStep (element : Reader α) (before : List α) : Reader (List α ⊕ List α) := do
  if ← hasElement before.isEmpty then return .inl ((← element) :: before)
  else
    advance
    return .inr before.reverse

/-- The elements of a list after its opening bracket. -/
def elements (element : Reader α) : Reader (List α) := loop (elementStep element) []

/-- The end of a list that must not have more elements. -/
def endOfList : Reader Unit := do
  match ← next with
  | none => fail .endOfList
  | some c =>
    if c = ']' then advance
    else if c = ',' then
      advance
      unexpected (if (← next) = some ']' then .trailingComma else .trailingCharacters)
    else unexpected .trailingCharacters

/-- Whether a name comes before the brace that ends an object. -/
def hasMember (first : Bool) : Reader Bool := do
  match ← next with
  | none => fail .endOfObject
  | some c =>
    if c = '\x7d' then return false
    else if first then
      if c = '"' then return true else unexpected .keyMustBeString
    else if c = ',' then
      advance
      match ← next with
      | none => fail .endOfValue
      | some d =>
        if d = '"' then return true
        else unexpected (if d = '\x7d' then .trailingComma else .keyMustBeString)
    else unexpected .expectedObjectCommaOrEnd

def colon : Reader Unit := do
  match ← next with
  | none => fail .endOfObject
  | some c => if c = ':' then advance else unexpected .expectedColon

/-- One more member; `member` reads what stands after the name. -/
def memberStep (member : σ → String → Reader σ) : Bool × σ → Reader ((Bool × σ) ⊕ σ)
  | (first, s) => do
    if ← hasMember first then
      advance
      return .inl (false, ← member s (← stringRest))
    else
      advance
      return .inr s

/-- Goes through the members of an object after its opening brace. -/
def members (member : σ → String → Reader σ) (start : σ) : Reader σ :=
  loop (memberStep member) (true, start)

end Reader

inductive Bracket
  | list
  | object
deriving DecidableEq, Repr

namespace Bracket

def close : Bracket → Char
  | .list => ']'
  | .object => '\x7d'

/-- The text ends inside of the brackets. -/
def ended : Bracket → Cause
  | .list => .endOfList
  | .object => .endOfObject

def expectedCommaOrEnd : Bracket → Cause
  | .list => .expectedListCommaOrEnd
  | .object => .expectedObjectCommaOrEnd

end Bracket

/-- What is passed over next. The brackets around it are given from the innermost one outwards. -/
inductive Passing
  | value (around : List Bracket)
  /-- The rest of a list or an object, from which at first no comma parts it. -/
  | inside (bracket : Bracket) (around : List Bracket) (first : Bool)
deriving DecidableEq, Repr

namespace Reader

/-- A value is passed over. -/
def passed : List Bracket → Passing ⊕ Unit
  | [] => .inr ()
  | bracket :: around => .inl (.inside bracket around false)

def passName : Reader Unit := do
  match ← next with
  | none => fail .endOfObject
  | some c =>
    if c = '"' then
      advance
      passString
      colon
    else unexpected .keyMustBeString

def passStep : Passing → Reader (Passing ⊕ Unit)
  | .value around => do
    match ← next with
    | none => fail .endOfValue
    | some c =>
      if c = '[' then
        advance
        return .inl (.inside .list around true)
      else if c = '\x7b' then
        advance
        return .inl (.inside .object around true)
      else if c = '"' then
        advance
        passString
      else if c = 'n' then word ['n', 'u', 'l', 'l']
      else if c = 't' then word ['t', 'r', 'u', 'e']
      else if c = 'f' then word ['f', 'a', 'l', 's', 'e']
      else if startsNumeral c then let _ ← numeral .invalidNumber
      else unexpected .expectedValue
      return passed around
  | .inside bracket around first => do
    match ← next with
    | none => fail bracket.ended
    | some c =>
      if c = bracket.close then
        advance
        return passed around
      unless first do
        if c = ',' then advance else unexpected bracket.expectedCommaOrEnd
      if bracket = .object then passName
      return .inl (.value (bracket :: around))

/-- Passes over one value. -/
def passValue : Reader Unit := loop passStep (.value [])

end Reader

end ReadLater.Json
