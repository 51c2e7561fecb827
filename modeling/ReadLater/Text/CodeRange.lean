/-! # Ordered ranges of character codes -/

namespace ReadLater.Text

/-- Membership in a list of ranges given in increasing order. -/
def inRanges (code : Nat) : List (Nat × Nat) → Bool
  | [] => false
  | (first, last) :: rest => if code < first then false else code ≤ last || inRanges code rest

end ReadLater.Text
