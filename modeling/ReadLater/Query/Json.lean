import ReadLater.Json.Parse
import ReadLater.Json.Variant
import ReadLater.Query.Tree

/-!
# Query trees in JSON

A tree is written as objects whose member `type` names the kind of node. Reading also takes an array
of the kind and the members in order. Members that a node does not know are passed over.
-/

namespace ReadLater.Query

open Json (fields? given? kindWord? untag?)

def Connective.name : Connective → String
  | .and => "AND"
  | .or => "OR"

def NegationMark.name : NegationMark → String
  | .word => "NOT"
  | .minus => "-"

def tagged (kind : String) (members : List (String × Json)) : Json :=
  .object (("type", .string kind) :: members)

def Field.toJson : Field → Json
  | .freeText => tagged "ImplicitField" []
  | .named name quoted => tagged "Field" [("name", .string name), ("quoted", .bool quoted)]

def Operand.toJson : Operand → Json
  | .empty => tagged "EmptyExpression" []
  | .literal value quoted =>
    tagged "LiteralExpression" [("value", value), ("quoted", .bool quoted)]

def toJson : Query → Json
  | .empty => tagged "EmptyExpression" []
  | .tag t => tagged "Tag" [("field", t.field.toJson), ("expression", t.operand.toJson)]
  | .logical connective left right =>
    tagged "LogicalExpression"
      [("operator", .object [("operator", .string connective.name)]), ("left", left.toJson),
        ("right", right.toJson)]
  | .negation mark operand =>
    tagged "UnaryOperator" [("operator", .string mark.name), ("operand", operand.toJson)]
  | .group inner => tagged "ParenthesizedExpression" [("expression", inner.toJson)]

def Connective.ofJson? (json : Json) : Option Connective := do
  let [some word] ← fields? ["operator"] json | none
  match ← kindWord? word with
  | "AND" => some .and
  | "OR" => some .or
  | _ => none

def NegationMark.ofJson? (json : Json) : Option NegationMark := do
  match ← kindWord? json with
  | "NOT" => some .word
  | "-" => some .minus
  | _ => none

def Field.ofJson? (json : Json) : Option Field := do
  let (kind, members) ← untag? ["ImplicitField", "Field"] true json
  if kind = "ImplicitField" then
    if members.allEmpty then some .freeText else none
  else
    let [some name, quoted] ← members.pick? ["name", "quoted"] | none
    return .named (← name.text?) (← given? Json.flag? false quoted)

def Operand.ofJson? (json : Json) : Option Operand := do
  let (kind, members) ← untag? ["LiteralExpression", "EmptyExpression"] true json
  if kind = "EmptyExpression" then
    if members.allEmpty then some .empty else none
  else
    let [some value, quoted] ← members.pick? ["value", "quoted"] | none
    return .literal value.normal (← given? Json.flag? false quoted)

def nodeKinds : List String :=
  ["EmptyExpression", "Tag", "LogicalExpression", "UnaryOperator", "ParenthesizedExpression"]

/-- The tree of a value of at most `depth` nested nodes. -/
def ofJson? (depth : Nat) (nested : Bool) (json : Json) : Option Query :=
  match depth with
  | 0 => none
  | depth + 1 => do
    let (kind, members) ← untag? nodeKinds nested json
    if kind = "EmptyExpression" then
      if members.allEmpty then some .empty else none
    else if kind = "Tag" then
      let [some field, some operand] ← members.pick? ["field", "expression"] | none
      return .tag ⟨← Field.ofJson? field, ← Operand.ofJson? operand⟩
    else if kind = "LogicalExpression" then
      let [some connective, some left, some right] ←
        members.pick? ["operator", "left", "right"] | none
      return .logical (← Connective.ofJson? connective) (← ofJson? depth true left)
        (← ofJson? depth true right)
    else if kind = "UnaryOperator" then
      let [mark, some operand] ← members.pick? ["operator", "operand"] | none
      let mark ← given? NegationMark.ofJson? .word mark
      return .negation mark (← ofJson? depth true operand)
    else
      let [some inner] ← members.pick? ["expression"] | none
      return .group (← ofJson? depth true inner)

/-- The tree in a JSON text. -/
def ofJsonText? (text : String) : Option Query := do
  ofJson? (Json.nestingLimit + 1) false (← (Json.read text).toOption)

end ReadLater.Query
