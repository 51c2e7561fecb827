import ReadLater.Text.Decimal

/-! # Faults of JSON texts -/

namespace ReadLater.Json

/-- What is wrong with a text. -/
inductive Cause
  | endOfList
  | endOfObject
  | endOfString
  | endOfValue
  | expectedColon
  | expectedListCommaOrEnd
  | expectedObjectCommaOrEnd
  | expectedIdentifier
  | expectedValue
  | invalidEscape
  | invalidNumber
  | numberOutOfRange
  | controlCharacter
  | keyMustBeString
  | loneSurrogate
  | unfinishedSurrogate
  | trailingComma
  | trailingCharacters
  | nestedTooDeeply
  /-- The value is none that is asked for. -/
  | unfit (message : String)
deriving DecidableEq, Repr

def Cause.message : Cause → String
  | .endOfList => "EOF while parsing a list"
  | .endOfObject => "EOF while parsing an object"
  | .endOfString => "EOF while parsing a string"
  | .endOfValue => "EOF while parsing a value"
  | .expectedColon => "expected `:`"
  | .expectedListCommaOrEnd => "expected `,` or `]`"
  | .expectedObjectCommaOrEnd => "expected `,` or `\x7d`"
  | .expectedIdentifier => "expected ident"
  | .expectedValue => "expected value"
  | .invalidEscape => "invalid escape"
  | .invalidNumber => "invalid number"
  | .numberOutOfRange => "number out of range"
  | .controlCharacter => "control character (\\u0000-\\u001F) found while parsing a string"
  | .keyMustBeString => "key must be a string"
  | .loneSurrogate => "lone leading surrogate in hex escape"
  | .unfinishedSurrogate => "unexpected end of hex escape"
  | .trailingComma => "trailing comma"
  | .trailingCharacters => "trailing characters"
  | .nestedTooDeeply => "recursion limit exceeded"
  | .unfit message => message

/-- A cause and the number of bytes up to the place it was found at. -/
structure Fault where
  cause : Cause
  offset : Nat
deriving DecidableEq, Repr

/-- The line that a number of bytes ends in, and those of the bytes that are on it. -/
def lineAndColumn (text : String) (offset : Nat) : Nat × Nat :=
  let (line, column, _) := text.toList.foldl (fun (line, column, left) c =>
    if left = 0 then (line, column, 0)
    else if c = '\n' then (line + 1, 0, left - 1)
    else (line, column + min left c.utf8Size, left - min left c.utf8Size)) (1, 0, offset)
  (line, column)

/-- The message of a fault in a text. -/
def Fault.message (fault : Fault) (text : String) : String :=
  let (line, column) := lineAndColumn text fault.offset
  fault.cause.message ++ " at line " ++ String.ofList (Text.decimal line) ++ " column " ++
    String.ofList (Text.decimal column)

end ReadLater.Json
