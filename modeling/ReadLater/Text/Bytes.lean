/-! # Bytes of texts -/

namespace ReadLater.Text

/-- Bytes of a text in UTF-8. -/
def byteLength (cs : List Char) : Nat :=
  cs.foldl (fun n c => n + c.utf8Size) 0

end ReadLater.Text
