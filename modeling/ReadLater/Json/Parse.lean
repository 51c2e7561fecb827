import ReadLater.Json.Typed

/-!
# Parsing JSON

A text is read to a value of any kind. As read, an object holds its members in the order of the
text, and names may recur. In normal form it is ordered by name.
-/

namespace ReadLater.Json

mutual

/-- Every object is ordered by name, and the last of several members with one name stays. -/
def normal : Json → Json
  | .array elements => .array (normalElements elements)
  | .object members => Json.ofMembers (normalMembers members)
  | json => json

def normalElements : List Json → List Json
  | [] => []
  | element :: rest => normal element :: normalElements rest

def normalMembers : List (String × Json) → List (String × Json)
  | [] => []
  | (name, value) :: rest => (name, normal value) :: normalMembers rest

end

/-- Levels that lists and objects may be nested. -/
def nestingLimit : Nat := 127

namespace Reader

/-- One more member of any object, of which `before` were read, the last one first. -/
def pair (value : Reader Json) (before : List (String × Json)) (name : String) :
    Reader (List (String × Json)) := do
  colon
  return (name, ← value) :: before

/-- A value with at most `depth` levels of lists and objects. -/
def value (depth : Nat) : Reader Json := do
  match ← next with
  | none => fail .endOfValue
  | some c =>
    if c = '[' ∨ c = '\x7b' then
      match depth with
      | 0 => unexpected .nestedTooDeeply
      | depth + 1 =>
        advance
        if c = '[' then return .array (← elements (value depth))
        else return .object (← members (pair (value depth)) []).reverse
    else if c = '"' then
      advance
      return .string (← stringRest)
    else if c = 'n' then
      word ['n', 'u', 'l', 'l']
      return .null
    else if c = 't' then
      word ['t', 'r', 'u', 'e']
      return .bool true
    else if c = 'f' then
      word ['f', 'a', 'l', 's', 'e']
      return .bool false
    else if startsNumeral c then return .number (← number)
    else unexpected .expectedValue

end Reader

/-- The value of a text as it stands there. -/
def read (text : String) : Except Fault Json :=
  (Reader.value nestingLimit).whole text

/-- The value of a text in normal form. -/
def parse (text : String) : Except Fault Json :=
  (read text).map normal

end ReadLater.Json
