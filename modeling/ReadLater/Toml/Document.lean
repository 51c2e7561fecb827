import ReadLater.Toml.Number
import ReadLater.Toml.Table

/-!
# TOML documents

A document is read line by line. Values are nested to a limit. A text that is not TOML throughout
has no table.
-/

namespace ReadLater.Toml

/-- Keys have fewer parts, and values fewer levels, than this. -/
def nestingLimit : Nat := 80

namespace Reader

def blanks : Reader Unit :=
  modify (·.dropWhile isTomlBlank)

def comment : Reader Unit := do
  if ← sees '#' then modify fun cs => (cs.drop 1).dropWhile isPlain

/-- Blanks, a comment, and the end of the line or of the text. -/
def lineEnd : Reader Unit := do
  blanks
  comment
  match ← get with
  | [] => return
  | '\n' :: rest => set rest
  | _ => failure

def isBareKeyChar (c : Char) : Bool :=
  Text.isAsciiLetter c || Text.isAsciiDigit c || c = '_' || c = '-'

def keyPart : Reader String := do
  blanks
  let cs ← get
  let part ← match quotedLine? cs with
    | some (part, rest) => set rest; pure part
    | none =>
      let part ← takeWhile isBareKeyChar
      if part.isEmpty then failure
      pure part
  blanks
  return String.ofList part

/-- The parts of a key after its first one. -/
def moreKeyParts : Nat → Reader (List String)
  | 0 => failure
  | fuel + 1 => do
    if ← sees '.' then
      char '.'
      let part ← keyPart
      return part :: (← moreKeyParts fuel)
    else return []

/-- The parts of a key, the last one apart. -/
def key : Reader (List String × String) := do
  let first ← keyPart
  let parts := first :: (← moreKeyParts (nestingLimit - 1))
  return (parts.dropLast, parts.getLastD "")

/-- Blanks, line ends and comments. -/
def skipLines : List Char → List Char
  | '#' :: rest => skipComment rest
  | c :: rest => if isTomlBlank c || c = '\n' then skipLines rest else c :: rest
  | [] => []
where
  /-- The rest of a comment and what is skipped after it. -/
  skipComment : List Char → List Char
    | '\n' :: rest => skipLines rest
    | c :: rest => if isPlain c then skipComment rest else c :: rest
    | [] => []

def word (letters : List Char) (value : Value) : Reader Value := do
  let cs ← get
  if letters.isPrefixOf cs then set (cs.drop letters.length); return value
  else failure

mutual

/-- A value of at most `depth` levels. The fuel bounds the number of steps. -/
def value (fuel depth : Nat) : Reader Value := do
  match fuel, ← get with
  | fuel + 1, c :: _ =>
    if c = '"' || c = '\'' then
      match quoted? (← get) with
      | some (cs, rest) => set rest; return .text (String.ofList cs)
      | none => failure
    else if c = '[' then
      char '['
      if depth ≤ 1 then failure
      return .array (← elements fuel (depth - 1))
    else if c = '\x7b' then
      char '\x7b'
      if depth ≤ 1 then failure
      blanks
      if ← sees '\x7d' then
        char '\x7d'
        return .table .inline []
      else return .table .inline (← entries fuel (depth - 1) [])
    else if c = 't' then word "true".toList (.boolean true)
    else if c = 'f' then word "false".toList (.boolean false)
    else number
  | _, _ => failure
termination_by fuel

/-- The elements of an array up to its bracket. -/
def elements (fuel depth : Nat) : Reader (List Value) := do
  match fuel with
  | 0 => failure
  | fuel + 1 =>
    modify skipLines
    if ← sees ']' then
      char ']'
      return []
    else
      let first ← value fuel depth
      modify skipLines
      if ← sees ',' then
        char ','
        return first :: (← elements fuel depth)
      else
        char ']'
        return [first]
termination_by fuel

/-- The entries of a table in braces up to its brace. -/
def entries (fuel depth : Nat) (before : Entries) : Reader Entries := do
  match fuel with
  | 0 => failure
  | fuel + 1 =>
    let (path, name) ← key
    char '='
    blanks
    let v ← value fuel depth
    blanks
    let some after := before.insert path name v | failure
    if ← sees ',' then
      char ','
      entries fuel depth after
    else
      char '\x7d'
      return after
termination_by fuel

end

end Reader

/-- The tables so far, and the header that the next entries belong to. -/
structure DocumentState where
  root : Entries
  header : List String

namespace Reader

/-- A header and the rest of its line. -/
def headerLine (s : DocumentState) : Reader DocumentState := do
  char '['
  let double ← sees '['
  if double then char '['
  let (path, name) ← key
  char ']'
  if double then char ']'
  lineEnd
  let begun := if double then s.root.beginElement path name else s.root.beginTable path name
  match begun with
  | some root => return ⟨root, path ++ [name]⟩
  | none => failure

/-- An entry and the rest of its line. -/
def entryLine (s : DocumentState) : Reader DocumentState := do
  let (path, name) ← key
  char '='
  blanks
  let fuel := 2 * (← get).length + 2
  let v ← value fuel nestingLimit
  lineEnd
  match s.root.atHeader (Entries.insert path name v) s.header with
  | some root => return { s with root }
  | none => failure

/-- The lines of a document. The fuel bounds their number. -/
def lines (s : DocumentState) : Nat → Reader Entries
  | 0 => failure
  | fuel + 1 => do
    blanks
    match ← get with
    | [] => return s.root
    | c :: _ =>
      if c = '#' || c = '\n' then
        lineEnd
        lines s fuel
      else if c = '[' then lines (← headerLine s) fuel
      else lines (← entryLine s) fuel

end Reader

/-- The table of a text that is TOML. A byte order mark may stand in front. -/
def parse (text : String) : Option Entries :=
  let cs := match text.toList with
    | '\uFEFF' :: rest => rest
    | cs => cs
  let cs := plainLineEnds cs
  ((Reader.lines ⟨[], []⟩ (cs.length + 1)).run cs).map (·.1)

end ReadLater.Toml
