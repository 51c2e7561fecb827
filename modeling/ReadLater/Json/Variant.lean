import ReadLater.Json.Members

/-!
# Variants

A value of one of several kinds is an object whose member `type` names the kind, or an array of the
kind and the values of its members in order. A kind without members may also stand alone.
-/

namespace ReadLater.Json

/-- The kind of a node among `kinds`; inside of a tree it may be given by its number. -/
def kindOf? (kinds : List String) (nested : Bool) : Json → Option String
  | .string s => if kinds.contains s then some s else none
  | .number (.int n) => if nested ∧ 0 ≤ n then kinds[n.toNat]? else none
  | _ => none

/-- Splits a node into its kind and its members. -/
def untag? (kinds : List String) (nested : Bool) : Json → Option (String × Members)
  | .object members =>
    match members.partition fun m => m.1 == "type" with
    | ([kind], rest) => (kindOf? kinds nested kind.2).map fun k => (k, .named rest)
    | _ => none
  | .array (kind :: rest) => (kindOf? kinds nested kind).map fun k => (k, .listed rest)
  | _ => none

/-- A node without members; unknown members may stand in an object. -/
def Members.allEmpty : Members → Bool
  | .named _ => true
  | .listed values => values.isEmpty

/-- A word, which may also name a member that holds nothing. -/
def kindWord? : Json → Option String
  | .object [(name, .object [])] => some name
  | json => json.word?

end ReadLater.Json
