/-! # Labels and their links to items -/

namespace ReadLater

structure Label where
  id : String
  userId : String
  name : String
deriving DecidableEq, Repr

structure LabelLink where
  labelId : String
  itemId : String
deriving DecidableEq, Repr

end ReadLater
