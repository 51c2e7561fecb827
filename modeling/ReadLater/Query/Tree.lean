import ReadLater.Json.Writer

/-! # Query trees -/

namespace ReadLater

namespace Query

inductive Field
  | freeText
  | named (name : String) (quoted : Bool)
deriving DecidableEq, Repr

/-- What a tag asks for; `quoted` tells that it was written in double quotes. -/
inductive Operand
  | empty
  | literal (value : Json) (quoted : Bool)

structure Tag where
  field : Field
  operand : Operand

inductive Connective
  | and
  | or
deriving DecidableEq, Repr

/-- The spelling of a negation. -/
inductive NegationMark
  | word
  | minus
deriving DecidableEq, Repr

end Query

inductive Query
  | empty
  | tag (t : Query.Tag)
  | logical (connective : Query.Connective) (left right : Query)
  | negation (mark : Query.NegationMark) (operand : Query)
  | group (inner : Query)

namespace Query

/-- The operand as text; a value that is no text stands as its JSON. -/
def Operand.text : Operand → String
  | .empty => ""
  | .literal .null _ => ""
  | .literal (.string s) _ => s
  | .literal value _ => value.compact

def Operand.isQuoted : Operand → Bool
  | .literal _ quoted => quoted
  | .empty => false

def text (s : String) (quoted : Bool) : Query :=
  .tag ⟨.freeText, .literal (.string s) quoted⟩

/-- The tags of a tree in reading order. -/
def tags : Query → List Tag
  | .empty => []
  | .tag t => [t]
  | .logical _ left right => left.tags ++ right.tags
  | .negation _ operand => operand.tags
  | .group inner => inner.tags

end Query

end ReadLater
