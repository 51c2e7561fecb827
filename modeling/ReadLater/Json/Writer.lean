import ReadLater.Double.Shortest
import ReadLater.Json.Basic

/-!
# Written JSON

The compact form has no blanks. The indented form puts each element and member on a line of its own
with two blanks for each level.
-/

namespace ReadLater.Json

def Number.write : Number → List Char
  | .int n => Text.decimalInt n
  | .float x => if Double.isFinite x then Double.writeShortest x else ['n', 'u', 'l', 'l']

def hexDigit (n : Nat) : Char :=
  if n < 10 then Char.ofNat (48 + n) else Char.ofNat (87 + n)

def writeChar (c : Char) : List Char :=
  if c = '"' then ['\\', '"']
  else if c = '\\' then ['\\', '\\']
  else if c = '\x08' then ['\\', 'b']
  else if c = '\x0c' then ['\\', 'f']
  else if c = '\n' then ['\\', 'n']
  else if c = '\r' then ['\\', 'r']
  else if c = '\t' then ['\\', 't']
  else if c.toNat < 32 then ['\\', 'u', '0', '0', hexDigit (c.toNat / 16), hexDigit (c.toNat % 16)]
  else [c]

def writeString (s : String) : List Char :=
  '"' :: s.toList.flatMap writeChar ++ ['"']

def writeScalar : Json → List Char
  | .bool true => ['t', 'r', 'u', 'e']
  | .bool false => ['f', 'a', 'l', 's', 'e']
  | .number n => n.write
  | .string s => writeString s
  | _ => ['n', 'u', 'l', 'l']

mutual

def write : Json → List Char
  | .array elements => '[' :: writeElements elements ++ [']']
  | .object members => '\x7b' :: writeMembers members ++ ['\x7d']
  | json => writeScalar json

def writeElements : List Json → List Char
  | [] => []
  | [element] => write element
  | element :: rest => write element ++ ',' :: writeElements rest

def writeMembers : List (String × Json) → List Char
  | [] => []
  | [(name, value)] => writeString name ++ ':' :: write value
  | (name, value) :: rest => writeString name ++ ':' :: write value ++ ',' :: writeMembers rest

end

/-- The start of a line at a level. -/
def newline (level : Nat) : List Char :=
  '\n' :: List.replicate (2 * level) ' '

mutual

def writeIndented (level : Nat) : Json → List Char
  | .array [] => ['[', ']']
  | .array (element :: rest) =>
    '[' :: newline (level + 1) ++ writeIndented (level + 1) element ++
      writeMoreElements (level + 1) rest ++ newline level ++ [']']
  | .object [] => ['\x7b', '\x7d']
  | .object ((name, value) :: rest) =>
    '\x7b' :: newline (level + 1) ++ writeString name ++ ':' :: ' ' ::
      writeIndented (level + 1) value ++ writeMoreMembers (level + 1) rest ++
      newline level ++ ['\x7d']
  | json => writeScalar json

def writeMoreElements (level : Nat) : List Json → List Char
  | [] => []
  | element :: rest =>
    ',' :: newline level ++ writeIndented level element ++ writeMoreElements level rest

def writeMoreMembers (level : Nat) : List (String × Json) → List Char
  | [] => []
  | (name, value) :: rest =>
    ',' :: newline level ++ writeString name ++ ':' :: ' ' :: writeIndented level value ++
      writeMoreMembers level rest

end

def compact (json : Json) : String :=
  String.ofList json.write

def indented (json : Json) : String :=
  String.ofList (json.writeIndented 0)

end ReadLater.Json
