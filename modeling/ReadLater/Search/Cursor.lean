import ReadLater.Search.Error
import ReadLater.Text.Blank

/-! # Cursors

A cursor is the offset of the page after the one that it came with.
-/

namespace ReadLater.Cursor

def write (offset : Nat) : String :=
  String.ofList (Text.decimal offset)

/-- The offset of a cursor; without one the first page is meant. -/
def read (cursor : Option String) : Except RequestError Nat :=
  let cursor := Text.trim (cursor.getD "")
  if cursor = "" then .ok 0
  else
    match Text.unsigned? cursor.toList with
    | some offset => .ok offset
    | none => .error (.invalidCursor cursor)

end ReadLater.Cursor
