/-! # Joining texts -/

namespace ReadLater.Text

/-- The texts with a separator between each two. -/
def join (separator : String) : List String → String
  | [] => ""
  | [s] => s
  | s :: rest => s ++ separator ++ join separator rest

end ReadLater.Text
