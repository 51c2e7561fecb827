import ReadLater.Library.Evaluation
import ReadLater.Query.Error

/-! # Errors of a request -/

namespace ReadLater

inductive RequestError
  | query (e : QueryError)
  | store (e : StoreError)
  /-- The cursor is not the offset of a page. -/
  | invalidCursor (cursor : String)
  | unknownLabel (id : String)
deriving DecidableEq, Repr

def RequestError.message : RequestError → String
  | .query e => e.message
  | .store e => "Storage error: " ++ e.message
  | .invalidCursor cursor => "Invalid cursor: " ++ cursor
  | .unknownLabel id => "Not found: label " ++ id

end ReadLater
