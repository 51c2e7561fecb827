import ReadLater.Double.Shortest
import ReadLater.Json.Brackets
import ReadLater.Text.Join
import ReadLater.Text.Quoted

/-!
# Reading values of a known type

A reader of a type looks at the first character of the value. If another type starts there, a scalar
is read for the complaint about it, while a list or an object is only named.
-/

namespace ReadLater.Json

/-- The number as it is told in complaints. -/
def Number.described : Number → String
  | .int n => "integer `" ++ String.ofList (Text.decimalInt n) ++ "`"
  | .float x => "floating point `" ++ String.ofList (Double.writeShortest x) ++ "`"

def Number.toFloat : Number → Float
  | .int n => Float.ofInt n
  | .float x => x

/-- A list of words as it stands in messages. -/
def alternatives : List String → String
  | [a] => "`" ++ a ++ "`"
  | [a, b] => "`" ++ a ++ "` or `" ++ b ++ "`"
  | words => "one of " ++ Text.join ", " (words.map fun w => "`" ++ w ++ "`")

namespace Reader

def invalidType (found expected : String) : Reader α :=
  fail (.unfit ("invalid type: " ++ found ++ ", expected " ++ expected))

/-- Complains about a value that does not start as the expected one. -/
def mistyped (expected : String) : Reader α := do
  match ← next with
  | none => fail .endOfValue
  | some c =>
    if c = '[' then invalidType "sequence" expected
    else if c = '\x7b' then invalidType "map" expected
    else if c = '"' then
      advance
      invalidType ("string " ++ String.ofList (Text.quoted (← stringRest))) expected
    else if c = 'n' then
      word ['n', 'u', 'l', 'l']
      invalidType "null" expected
    else if c = 't' then
      word ['t', 'r', 'u', 'e']
      invalidType "boolean `true`" expected
    else if c = 'f' then
      word ['f', 'a', 'l', 's', 'e']
      invalidType "boolean `false`" expected
    else if startsNumeral c then invalidType (← number).described expected
    else unexpected .expectedValue

/-- A string that stands for something. -/
def text (expected : String) : Reader String := do
  if (← next) = some '"' then
    advance
    stringRest
  else mistyped expected

def string : Reader String := text "a string"

def float : Reader Float := do
  if (← next).any startsNumeral then return (← number).toFloat
  else mistyped "f64"

def int64 : Reader Int64 := do
  if (← next).any startsNumeral then
    match ← number with
    | .int n =>
      match Text.int64? n with
      | some k => return k
      | none =>
        fail (.unfit ("invalid value: " ++ (Number.int n).described ++ ", expected i64"))
    | .float x => invalidType (Number.float x).described "i64"
  else mistyped "i64"

def null (expected : String) : Reader Unit := do
  if (← next) = some 'n' then word ['n', 'u', 'l', 'l']
  else mistyped expected

/-- Null for none. -/
def optional (reader : Reader α) : Reader (Option α) := do
  if (← next) = some 'n' then
    word ['n', 'u', 'l', 'l']
    return none
  else return some (← reader)

def list (element : Reader α) : Reader (List α) := do
  if (← next) = some '[' then
    advance
    elements element
  else mistyped "a sequence"

/-- One of a few values by its name. -/
def named (all : List α) (name : α → String) : Reader α := do
  let word ← text "variant identifier"
  match all.find? fun a => name a == word with
  | some a => return a
  | none =>
    fail (.unfit ("unknown variant `" ++ word ++ "`, expected " ++ alternatives (all.map name)))

/-- One of a few values by its name, which stands alone or is the only name in an object, before a
null. -/
def oneOf (all : List α) (name : α → String) : Reader α := do
  match ← next with
  | none => fail .endOfValue
  | some c =>
    if c = '"' then named all name
    else if c = '\x7b' then
      advance
      match ← next with
      | none => fail .endOfObject
      | some d => unless d = '"' do unexpected .keyMustBeString
      let a ← named all name
      colon
      null "unit"
      match ← next with
      | none => fail .endOfObject
      | some d =>
        unless d = '\x7d' do fail .expectedValue
        advance
        return a
    else unexpected .expectedValue

end Reader

end ReadLater.Json
