import ReadLater.Text.Alphanumeric

/-!
# Quoted TOML strings

The four kinds of strings. Each function reads what follows the opening quotes, and returns the
characters of the string and the text after the closing quotes.
-/

namespace ReadLater.Toml

def isTomlBlank (c : Char) : Bool :=
  c = ' ' || c = '\t'

/-- A character that may stand in a comment or a literal string on one line. -/
def isPlain (c : Char) : Bool :=
  c = '\t' || (32 ≤ c.toNat && c.toNat ≤ 126) || 128 ≤ c.toNat

def hexDigit? (c : Char) : Option Nat :=
  if Text.isAsciiDigit c then some (c.toNat - 48)
  else if 'a' ≤ c && c ≤ 'f' then some (c.toNat - 87)
  else if 'A' ≤ c && c ≤ 'F' then some (c.toNat - 55)
  else none

/-- The character with a hexadecimal code. -/
def scalar? (digits : List Char) : Option Char := do
  let values ← digits.mapM hexDigit?
  let code := values.foldl (fun n d => 16 * n + d) 0
  if code < 0xD800 ∨ (0xE000 ≤ code ∧ code < 0x110000) then some (Char.ofNat code) else none

def escaped? (c : Char) : Option Char :=
  if c = 'b' then some '\x08'
  else if c = 't' then some '\t'
  else if c = 'n' then some '\n'
  else if c = 'f' then some '\x0c'
  else if c = 'r' then some '\r'
  else if c = '"' then some '"'
  else if c = '\\' then some '\\'
  else none

/-- Puts a character in front of a string that was read. -/
def prepend (c : Char) (result : Option (List Char × List Char)) :
    Option (List Char × List Char) :=
  result.map fun (cs, rest) => (c :: cs, rest)

/-- The character of an escape after its backslash, and what follows. -/
def escape? : List Char → Option (Char × List Char)
  | 'u' :: a :: b :: c :: d :: rest => (scalar? [a, b, c, d]).map (·, rest)
  | 'U' :: a :: b :: c :: d :: e :: f :: g :: h :: rest =>
    (scalar? [a, b, c, d, e, f, g, h]).map (·, rest)
  | c :: rest => (escaped? c).map (·, rest)
  | [] => none

/-- A string in double quotes on one line. -/
def basicBody : List Char → Option (List Char × List Char)
  | '"' :: rest => some ([], rest)
  | '\\' :: rest =>
    match escape? rest with
    | some (c, after) =>
      if after.length < rest.length then prepend c (basicBody after) else none
    | none => none
  | c :: rest => if isPlain c then prepend c (basicBody rest) else none
  | [] => none
termination_by cs => cs.length

/-- A string in single quotes on one line. -/
def literalBody : List Char → Option (List Char × List Char)
  | '\'' :: rest => some ([], rest)
  | c :: rest => if isPlain c then prepend c (literalBody rest) else none
  | [] => none

/-- Skips blanks and the end of a line after a backslash, with all blanks and line ends that
follow. -/
def skipLineEnd? (cs : List Char) : Option (List Char) :=
  let skipBlank (cs : List Char) := cs.dropWhile fun c => isTomlBlank c || c = '\n'
  match cs.dropWhile isTomlBlank with
  | '\n' :: rest => some (skipBlank rest)
  | _ => none

/-- A string in three double quotes, given with plain line ends. Up to two quotes may stand before
the closing ones. -/
def basicLines : List Char → Option (List Char × List Char)
  | '"' :: '"' :: '"' :: '"' :: '"' :: rest => some (['"', '"'], rest)
  | '"' :: '"' :: '"' :: '"' :: rest => some (['"'], rest)
  | '"' :: '"' :: '"' :: rest => some ([], rest)
  | '\\' :: rest =>
    match skipLineEnd? rest with
    | some after => if after.length < rest.length then basicLines after else none
    | none =>
      match escape? rest with
      | some (c, after) =>
        if after.length < rest.length then prepend c (basicLines after) else none
      | none => none
  | c :: rest => if isPlain c || c = '\n' then prepend c (basicLines rest) else none
  | [] => none
termination_by cs => cs.length

/-- A string in three single quotes, given with plain line ends. -/
def literalLines : List Char → Option (List Char × List Char)
  | '\'' :: '\'' :: '\'' :: '\'' :: '\'' :: rest => some (['\'', '\''], rest)
  | '\'' :: '\'' :: '\'' :: '\'' :: rest => some (['\''], rest)
  | '\'' :: '\'' :: '\'' :: rest => some ([], rest)
  | c :: rest => if isPlain c || c = '\n' then prepend c (literalLines rest) else none
  | [] => none

/-- The first line end right after the opening quotes does not count. -/
def skipFirstLineEnd : List Char → List Char
  | '\n' :: rest => rest
  | cs => cs

/-- A quoted string on one line, with its quotes. -/
def quotedLine? : List Char → Option (List Char × List Char)
  | '"' :: rest => basicBody rest
  | '\'' :: rest => literalBody rest
  | _ => none

def quoted? : List Char → Option (List Char × List Char)
  | '"' :: '"' :: '"' :: rest => basicLines (skipFirstLineEnd rest)
  | '\'' :: '\'' :: '\'' :: rest => literalLines (skipFirstLineEnd rest)
  | cs => quotedLine? cs

/-- Line ends of two characters written as one. A carriage return on its own stays. -/
def plainLineEnds : List Char → List Char
  | '\r' :: '\n' :: rest => '\n' :: plainLineEnds rest
  | c :: rest => c :: plainLineEnds rest
  | [] => []

end ReadLater.Toml
