import ReadLater.Text.Decimal

/-! # Query errors -/

namespace ReadLater

/-- A token that cannot stand where an operand or the end of the query is needed. -/
inductive Query.Misplaced
  | close
  | and
  | or
deriving DecidableEq, Repr

inductive Query.SyntaxError
  | unterminatedQuote
  | unclosedGroup
  | unexpectedEnd
  | unexpected (token : Query.Misplaced)
deriving DecidableEq, Repr

def Query.SyntaxError.reason : Query.SyntaxError → String
  | .unterminatedQuote => "unterminated quote"
  | .unclosedGroup => "unclosed '('"
  | .unexpectedEnd => "unexpected end of query"
  | .unexpected .close => "unexpected ')'"
  | .unexpected .and => "unexpected AND"
  | .unexpected .or => "unexpected OR"

/-- Why a query is rejected. The offset of a malformed query counts bytes. -/
inductive QueryError
  | malformed (offset : Nat) (error : Query.SyntaxError)
  | unknownField (field : String)
  | invalidKeyword (field value : String)
  | missingOperand (field : String)
  | malformedNumber (field value : String)
  | malformedDate (field value : String)
deriving DecidableEq, Repr

namespace QueryError

def message : QueryError → String
  | .malformed offset error =>
    "Malformed query at offset " ++ String.ofList (Text.decimal offset) ++ ": " ++ error.reason
  | .unknownField field => "Unexpected keyword: " ++ field
  | .invalidKeyword field value => "Unexpected keyword for '" ++ field ++ "': " ++ value
  | .missingOperand field => "Missing value for '" ++ field ++ "'"
  | .malformedNumber field value =>
    "Invalid numeric filter for '" ++ field ++ "': " ++ value ++
      " (expected <, <=, > or >= followed by an integer)"
  | .malformedDate field value => "Invalid date for '" ++ field ++ "': " ++ value

/-- The field that the error is about, as it was written. -/
def field? : QueryError → Option String
  | .malformed .. => none
  | .unknownField field => some field
  | .invalidKeyword field _ => some field
  | .missingOperand field => some field
  | .malformedNumber field _ => some field
  | .malformedDate field _ => some field

end QueryError

end ReadLater
