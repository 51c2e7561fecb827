import ReadLater.Json.Reader
import ReadLater.Text.Decimal

/-!
# Reading JSON strings

Strings that are read hold characters only, so that escaped surrogates must come in pairs. A string
that is passed over only has to end.
-/

namespace ReadLater.Json

def isHexDigit (c : Char) : Bool :=
  Text.isAsciiDigit c || ('a' ≤ c && c ≤ 'f') || ('A' ≤ c && c ≤ 'F')

def hexValue (c : Char) : Nat :=
  if Text.isAsciiDigit c then c.toNat - 48
  else if 'a' ≤ c then c.toNat - 87
  else c.toNat - 55

def isLeading (code : Nat) : Bool :=
  0xD800 ≤ code && code ≤ 0xDBFF

def isTrailing (code : Nat) : Bool :=
  0xDC00 ≤ code && code ≤ 0xDFFF

/-- The character of a pair of surrogates. -/
def pairedChar (leading trailing : Nat) : Char :=
  Char.ofNat (0x10000 + (leading - 0xD800) * 0x400 + (trailing - 0xDC00))

def escapedChar? (c : Char) : Option Char :=
  if c = '"' then some '"'
  else if c = '\\' then some '\\'
  else if c = '/' then some '/'
  else if c = 'b' then some '\x08'
  else if c = 'f' then some '\x0c'
  else if c = 'n' then some '\n'
  else if c = 'r' then some '\r'
  else if c = 't' then some '\t'
  else none

def isControl (c : Char) : Bool :=
  c.toNat < 32

namespace Reader

/-- The number of four hexadecimal digits; they are the next four bytes in any case. -/
def hexUnit : Reader Nat := do
  let s ← get
  let digits := s.rest.take 4
  let size := Text.byteLength digits
  if size < 4 then throw ⟨.endOfString, s.offset + size⟩
  unless digits.all isHexDigit do throw ⟨.invalidEscape, s.offset + 4⟩
  set { s with rest := s.rest.drop 4, offset := s.offset + 4 }
  return digits.foldl (fun n c => 16 * n + hexValue c) 0

/-- A character between two surrogates. -/
def surrogateMark (c : Char) : Reader Unit := do
  match ← peek with
  | none => fail .endOfString
  | some d => if d = c then advance else unexpected .unfinishedSurrogate

/-- A character given by one or two numbers. -/
def escapedUnit : Reader Char := do
  let code ← hexUnit
  if isTrailing code then fail .loneSurrogate
  if isLeading code then
    surrogateMark '\\'
    surrogateMark 'u'
    let trailing ← hexUnit
    unless isTrailing trailing do fail .loneSurrogate
    return pairedChar code trailing
  else return Char.ofNat code

/-- The character of an escape after its backslash; `unit` reads what stands after a `u`. -/
def escape (unit : Reader Char) : Reader Char := do
  match ← peek with
  | none => fail .endOfString
  | some c =>
    match escapedChar? c with
    | some d =>
      advance
      return d
    | none =>
      if c = 'u' then
        advance
        unit
      else unexpected .invalidEscape

/-- One more character of a string, of which `before` were read, the last one first. -/
def stringStep (before : List Char) : Reader (List Char ⊕ String) := do
  match ← peek with
  | none => fail .endOfString
  | some c =>
    if c = '"' then
      advance
      return .inr (String.ofList before.reverse)
    else if c = '\\' then
      advance
      return .inl ((← escape escapedUnit) :: before)
    else if isControl c then unexpected .controlCharacter
    else
      advance
      return .inl (c :: before)

/-- A string after its opening quote. -/
def stringRest : Reader String := loop stringStep []

/-- One more character of a string that is passed over. -/
def passStringStep (_ : Unit) : Reader (Unit ⊕ Unit) := do
  match ← peek with
  | none => fail .endOfString
  | some c =>
    if c = '"' then
      advance
      return .inr ()
    else if c = '\\' then
      advance
      let _ ← escape do
        let _ ← hexUnit
        return c
      return .inl ()
    else if isControl c then fail .controlCharacter
    else
      advance
      return .inl ()

/-- Passes over a string after its opening quote. -/
def passString : Reader Unit := loop passStringStep ()

end Reader

end ReadLater.Json
